import VisualNovel.Proofs.Document.Integer
import VisualNovel.Proofs.Document.Plain

/-!
# Documents in files read back

1. A list of characters reads as a document (`ReadsAs`) if the reader, wherever these characters stand,
   takes just them and gives the document, with no more steps than there are characters.
2. Items set apart by commas and blanks are read one after another (`ReadsInTurn.readAll_intercalate`),
   those of a list and the fields of a table alike. So the text of a list or table reads as such if the
   texts of its items do (`readsAs_list`, `readsAs_table`).
3. Hence the text of a plain document reads as the document, sorted (`readsAs_of_write`), and so does the
   file that holds it (`read_of_toText`). An integer with too many digits is refused
   (`read_digitsOf_of_long`).
-/

namespace VisualNovel

open Document

namespace Document

/-! ## Blanks -/

theorem isBlank_eq_false_iff {c : Char} :
    isBlank c = false ↔ c ≠ ' ' ∧ c ≠ '\t' ∧ c ≠ '\n' ∧ c ≠ '\r' := by
  simp [isBlank, and_assoc]

theorem skipBlanks_append {blanks rest : List Char} (h : ∀ c ∈ blanks, isBlank c) :
    skipBlanks (blanks ++ rest) = skipBlanks rest :=
  List.dropWhile_append_of_pos h

theorem skipBlanks_cons {c : Char} (h : isBlank c = false) (rest : List Char) :
    skipBlanks (c :: rest) = c :: rest :=
  List.dropWhile_cons_of_neg (by simp [h])

theorem isBlank_of_isDigit {c : Char} (h : isDigit c) : isBlank c = false := by
  rw [isBlank_eq_false_iff]
  refine ⟨?_, ?_, ?_, ?_⟩
  all_goals
    rintro rfl
    cases h

theorem stops_cons {c : Char} (h : isDigit c = false ∧ c ≠ '.' ∧ c ≠ 'e' ∧ c ≠ 'E')
    (rest : List Char) : Stops (c :: rest) := by
  rintro d ⟨⟩
  exact h

theorem stops_of_blanks {blanks rest : List Char} (h : ∀ c ∈ blanks, isBlank c) (hrest : Stops rest) :
    Stops (blanks ++ rest) := by
  cases blanks with
  | nil => exact hrest
  | cons c blanks =>
    have hc : ((c = ' ' ∨ c = '\t') ∨ c = '\n') ∨ c = '\r' := by
      simpa [isBlank] using h c List.mem_cons_self
    obtain ((rfl | rfl) | rfl) | rfl := hc <;> exact stops_cons (by decide) _

/-! ## Reading as a document -/

/-- The characters are a text of the document: they start with none that could be skipped or end a list,
and where they stand in front of something that cannot go on a number, the reader takes just them. -/
structure ReadsAs (d : Document) (s : List Char) : Prop where
  starts : ∃ c rest, s = c :: rest ∧ isBlank c = false ∧ c ≠ ']' ∧ c ≠ '\ufeff'
  reads : ∀ fuel rest, s.length ≤ fuel + 1 → Stops rest →
    readValue (fuel + 1) (s ++ rest) = .ok (d, rest)

namespace ReadsAs

variable {d : Document} {s : List Char}

theorem skipBlanks_append (h : ReadsAs d s) (rest : List Char) : skipBlanks (s ++ rest) = s ++ rest := by
  obtain ⟨c, more, rfl, hc, _⟩ := h.starts
  exact skipBlanks_cons hc _

theorem readValue_append (h : ReadsAs d s) {fuel : Nat} (hfuel : s.length ≤ fuel) {rest : List Char}
    (hrest : Stops rest) : readValue fuel (s ++ rest) = .ok (d, rest) := by
  cases fuel with
  | zero =>
    obtain ⟨c, more, rfl, _⟩ := h.starts
    cases hfuel
  | succ fuel => exact h.reads fuel rest hfuel hrest

end ReadsAs

theorem readsAs_null : ReadsAs .null ['n', 'u', 'l', 'l'] where
  starts := ⟨_, _, rfl, by decide⟩
  reads _ _ _ _ := rfl

theorem readsAs_true : ReadsAs (.bool true) ['t', 'r', 'u', 'e'] where
  starts := ⟨_, _, rfl, by decide⟩
  reads _ _ _ _ := rfl

theorem readsAs_false : ReadsAs (.bool false) ['f', 'a', 'l', 's', 'e'] where
  starts := ⟨_, _, rfl, by decide⟩
  reads _ _ _ _ := rfl

theorem readsAs_text {text : Text} (whole : text.Whole) : ReadsAs (.text text) (writeText text) where
  starts := ⟨_, _, rfl, by decide⟩
  reads := by
    intro fuel rest _ _
    unfold writeText
    rw [List.cons_append, List.append_assoc, List.singleton_append, readValue, readText_writeText whole]

theorem readsAs_int {n : Int} (h : (digitsOf n.natAbs).length ≤ digitLimit) :
    ReadsAs (.int n) (intText n).toList where
  starts := by
    cases n with
    | ofNat k =>
      obtain ⟨c, more, hdigits, hc⟩ := exists_digitsOf k
      refine ⟨c, more, by rw [toList_intText_ofNat, hdigits], isBlank_of_isDigit hc, ?_, ?_⟩
      · rintro rfl
        cases hc
      · rintro rfl
        cases hc
    | negSucc k => exact ⟨_, _, toList_intText_negSucc k, by decide⟩
  reads := by
    intro fuel rest _ hrest
    have hnumber := readNumber?_intText h hrest
    -- what starts with a digit or a sign before one is no text, bracket or word
    cases n with
    | ofNat k =>
      obtain ⟨c, more, hdigits, hc⟩ := exists_digitsOf k
      rw [toList_intText_ofNat, hdigits, List.cons_append] at hnumber ⊢
      rw [readValue, readScalar, hnumber]
      all_goals
        generalize more ++ rest = tail
        rintro _ ⟨⟩
        cases hc
    | negSucc k =>
      obtain ⟨c, more, hdigits, hc⟩ := exists_digitsOf (k + 1)
      rw [toList_intText_negSucc, hdigits, List.cons_append, List.cons_append] at hnumber ⊢
      rw [readValue, readScalar, hnumber]
      all_goals
        generalize more ++ rest = tail
        rintro _ ⟨⟩
      cases hc

/-! ## Sequences -/

/-- How a reader goes on behind an item: at the closing character it ends, and behind a comma it reads the
next item. -/
structure ReadsInTurn {α : Type} (readAll : Nat → List Char → Reading (List α))
    (Reads : α → List Char → Prop) (close : Char) : Prop where
  close_notBlank : isBlank close = false
  close_stops : ∀ rest, Stops (close :: rest)
  starts : ∀ {a text}, Reads a text → ∃ c more, text = c :: more ∧ isBlank c = false ∧ c ≠ close
  last : ∀ {a text fuel rest tail}, Reads a text → text.length ≤ fuel → Stops rest →
    skipBlanks rest = close :: tail → readAll (fuel + 1) (text ++ rest) = .ok ([a], tail)
  next : ∀ {a text fuel rest tail}, Reads a text → text.length ≤ fuel → Stops rest →
    skipBlanks rest = ',' :: tail →
      readAll (fuel + 1) (text ++ rest) = .cons a (readAll fuel (skipBlanks tail))

namespace ReadsInTurn

variable {α : Type} {readAll : Nat → List Char → Reading (List α)} {Reads : α → List Char → Prop}
  {close : Char} {items : List α} {texts : List (List Char)}

/-- What texts set apart start with. -/
theorem starts_intercalate (turn : ReadsInTurn readAll Reads close) {item : α} {text : List Char}
    (h : Reads item text) (sep : List Char) (texts : List (List Char)) :
    ∃ c more, sep.intercalate (text :: texts) = c :: more ∧ isBlank c = false ∧ c ≠ close := by
  obtain ⟨c, more, rfl, hc⟩ := turn.starts h
  exact ⟨c, _, List.intercalate_cons_cons_left, hc⟩

/-- Texts set apart by commas and blanks are read one after another up to the closing character. -/
theorem readAll_intercalate (turn : ReadsInTurn readAll Reads close)
    (h : List.Forall₂ Reads items texts) (nonempty : texts ≠ []) {gap post : List Char}
    (hgap : ∀ c ∈ gap, isBlank c) (hpost : ∀ c ∈ post, isBlank c) {fuel : Nat}
    (hfuel : ((',' :: gap).intercalate texts).length < fuel) (rest : List Char) :
    readAll fuel ((',' :: gap).intercalate texts ++ (post ++ close :: rest)) = .ok (items, rest) := by
  induction h generalizing fuel with
  | nil => exact absurd rfl nonempty
  | @cons item text items texts hitem hitems ih =>
    obtain ⟨fuel, rfl⟩ := Nat.exists_eq_add_one.2 (Nat.zero_lt_of_lt hfuel)
    cases hitems with
    | nil =>
      rw [List.intercalate_singleton] at hfuel ⊢
      have hskip : skipBlanks (post ++ close :: rest) = close :: rest := by
        rw [skipBlanks_append hpost, skipBlanks_cons turn.close_notBlank]
      exact turn.last hitem (by omega) (stops_of_blanks hpost (turn.close_stops rest)) hskip
    | @cons second secondText items texts hsecond hitems =>
      obtain ⟨c, more, hstarts, hc, _⟩ := turn.starts_intercalate hsecond (',' :: gap) texts
      rw [List.intercalate_cons_cons, hstarts] at hfuel ⊢
      have ih := @ih (List.cons_ne_nil _ _) fuel
      rw [hstarts] at ih
      have hcomma : skipBlanks (',' :: (gap ++ (c :: more ++ (post ++ close :: rest)))) =
          ',' :: (gap ++ (c :: more ++ (post ++ close :: rest))) := skipBlanks_cons (by decide) _
      have hmore : skipBlanks (gap ++ (c :: more ++ (post ++ close :: rest))) =
          c :: more ++ (post ++ close :: rest) := by
        rw [skipBlanks_append hgap, List.cons_append, skipBlanks_cons hc]
      simp only [List.length_append, List.length_cons] at hfuel ih
      rw [List.append_assoc, List.append_assoc, List.cons_append,
        turn.next hitem (by omega) (stops_cons (by decide) _) hcomma, hmore, ih (by omega)]
      rfl

end ReadsInTurn

theorem readsInTurn_items : ReadsInTurn readItems ReadsAs ']' where
  close_notBlank := by decide
  close_stops := stops_cons (by decide)
  starts := by
    intro d text hd
    obtain ⟨c, more, htext, hc, hclose, _⟩ := hd.starts
    exact ⟨c, more, htext, hc, hclose⟩
  last := by
    intro d text fuel rest tail hd hfuel hrest hskip
    rw [readItems, hd.readValue_append hfuel hrest]
    simp only [hskip]
  next := by
    intro d text fuel rest tail hd hfuel hrest hskip
    rw [readItems, hd.readValue_append hfuel hrest]
    simp only [hskip]

/-- The characters are a text of a field. -/
def FieldReadsAs (field : Key × Document) (s : List Char) : Prop :=
  ∃ (name : Text) (value : List Char), field.1 = .text name ∧ name.Whole ∧ ReadsAs field.2 value ∧
    s = writeField name value

theorem writeField_append (name : Text) (value rest : List Char) :
    writeField name value ++ rest =
      '"' :: (name.points.flatMap writePoint ++ '"' :: ':' :: ' ' :: (value ++ rest)) := by
  simp [writeField, writeText]

/-- Behind the name of a field stand a colon, a blank and the value. -/
theorem reads_behind_name {d : Document} {name : Text} {value : List Char} (hd : ReadsAs d value)
    {fuel : Nat} (hfuel : (writeField name value).length ≤ fuel) {rest : List Char} (hrest : Stops rest) :
    skipBlanks (':' :: ' ' :: (value ++ rest)) = ':' :: ' ' :: (value ++ rest) ∧
      skipBlanks (' ' :: (value ++ rest)) = value ++ rest ∧
      readValue fuel (value ++ rest) = .ok (d, rest) := by
  have hlength : value.length ≤ fuel := by
    unfold writeField at hfuel
    rw [List.length_append, List.length_cons, List.length_cons] at hfuel
    omega
  exact ⟨skipBlanks_cons (by decide) _, hd.skipBlanks_append rest, hd.readValue_append hlength hrest⟩

theorem readsInTurn_fields : ReadsInTurn readFields FieldReadsAs '\x7d' where
  close_notBlank := by decide
  close_stops := stops_cons (by decide)
  starts := by
    rintro _ _ ⟨name, value, _, _, _, rfl⟩
    exact ⟨_, _, rfl, by decide⟩
  last := by
    rintro ⟨_, d⟩ _ fuel rest tail ⟨name, value, rfl, whole, hd, rfl⟩ hfuel hrest hskip
    obtain ⟨hcolon, hblank, hvalue⟩ := reads_behind_name hd hfuel hrest
    rw [writeField_append, readFields, readText_writeText whole]
    simp only [hcolon, hblank, hvalue, hskip]
  next := by
    rintro ⟨_, d⟩ _ fuel rest tail ⟨name, value, rfl, whole, hd, rfl⟩ hfuel hrest hskip
    obtain ⟨hcolon, hblank, hvalue⟩ := reads_behind_name hd hfuel hrest
    rw [writeField_append, readFields, readText_writeText whole]
    simp only [hcolon, hblank, hvalue, hskip]

/-! ## Brackets -/

theorem isBlank_of_mem_lineBreak {indent level : Nat} {c : Char} (h : c ∈ lineBreak indent level) :
    isBlank c := by
  unfold lineBreak at h
  rcases List.mem_cons.1 h with rfl | hspace
  · decide
  · rw [List.eq_of_mem_replicate hspace]
    decide

/-- Between brackets stand the items, with blanks before them, a comma and blanks between two, and blanks
behind. -/
theorem exists_bracketed (layout : Layout) (level : Nat) (left right : Char)
    {texts : List (List Char)} (nonempty : texts ≠ []) :
    ∃ pre gap post : List Char, (∀ c ∈ pre, isBlank c) ∧ (∀ c ∈ gap, isBlank c) ∧
      (∀ c ∈ post, isBlank c) ∧
      bracketed layout level left right texts =
        left :: (pre ++ ((',' :: gap).intercalate texts ++ (post ++ [right]))) := by
  have hempty : texts.isEmpty = false := by simpa using nonempty
  unfold bracketed
  rw [hempty]
  cases layout.indent with
  | none => exact ⟨[], [' '], [], by simp, by simp [isBlank], by simp, rfl⟩
  | some indent =>
    refine ⟨lineBreak indent (level + 1), lineBreak indent (level + 1), lineBreak indent level,
      fun c => isBlank_of_mem_lineBreak, fun c => isBlank_of_mem_lineBreak,
      fun c => isBlank_of_mem_lineBreak, ?_⟩
    simp

/-- What stands behind an opening bracket is read as the items, and does not start with the closing one. -/
theorem ReadsInTurn.exists_readAll_bracketed {α : Type}
    {readAll : Nat → List Char → Reading (List α)} {Reads : α → List Char → Prop} {close : Char}
    (turn : ReadsInTurn readAll Reads close) {items : List α} {texts : List (List Char)}
    (h : List.Forall₂ Reads items texts) (nonempty : texts ≠ []) (layout : Layout) (level : Nat)
    (left : Char) :
    ∃ s, bracketed layout level left close texts = left :: s ∧
      ∀ fuel rest, s.length ≤ fuel → ∃ c more, skipBlanks (s ++ rest) = c :: more ∧ c ≠ close ∧
        readAll fuel (c :: more) = .ok (items, rest) := by
  obtain ⟨pre, gap, post, hpre, hgap, hpost, hbracketed⟩ :=
    exists_bracketed layout level left close nonempty
  refine ⟨_, hbracketed, fun fuel rest hfuel => ?_⟩
  have hlength : ((',' :: gap).intercalate texts).length < fuel := by
    simp only [List.length_append, List.length_singleton] at hfuel
    omega
  have hread := turn.readAll_intercalate h nonempty hgap hpost hlength rest
  cases h with
  | nil => exact absurd rfl nonempty
  | @cons item text items texts hitem hitems =>
    obtain ⟨c, more, hstarts, hc, hclose⟩ := turn.starts_intercalate hitem (',' :: gap) texts
    rw [hstarts, List.cons_append] at hread
    refine ⟨c, more ++ (post ++ close :: rest), ?_, hclose, hread⟩
    rw [hstarts, List.append_assoc, skipBlanks_append hpre]
    simp [skipBlanks_cons hc]

theorem readsAs_list {items : List Document} {texts : List (List Char)}
    (h : List.Forall₂ ReadsAs items texts) (layout : Layout) (level : Nat) :
    ReadsAs (.list items) (bracketed layout level '[' ']' texts) := by
  by_cases hempty : texts = []
  · cases hempty
    cases h
    exact ⟨⟨_, _, rfl, by decide⟩, fun _ _ _ _ => rfl⟩
  · obtain ⟨s, hs, hread⟩ := readsInTurn_items.exists_readAll_bracketed h hempty layout level '['
    rw [hs]
    refine ⟨⟨_, _, rfl, by decide⟩, fun fuel rest hfuel _ => ?_⟩
    obtain ⟨c, more, hskip, hc, hitems⟩ := hread fuel rest (Nat.le_of_succ_le_succ hfuel)
    rw [List.cons_append, readValue]
    simp only [hskip]
    split
    · next heq => exact absurd (List.cons.inj heq).1 hc
    · rw [hitems]

theorem store_of_new {key : Key} (value : Document) {table : Fields}
    (new : ∀ field ∈ table, field.1.same key = false) :
    Fields.store key value table = table ++ [(key, value)] := by
  induction table with
  | nil => rfl
  | cons field rest ih =>
    obtain ⟨hfield, hrest⟩ := List.forall_mem_cons.1 new
    unfold Fields.store
    rw [hfield, ih hrest]
    rfl

/-- Fields with distinct keys are stored as they stand. -/
theorem ofList_of_distinct {fields : Fields}
    (distinct : fields.Pairwise fun a b => a.1.same b.1 = false) : Fields.ofList fields = fields := by
  have hfold : ∀ (fields table : Fields),
      (table ++ fields).Pairwise (fun a b => a.1.same b.1 = false) →
      fields.foldl (fun table field => Fields.store field.1 field.2 table) table = table ++ fields := by
    intro fields
    induction fields with
    | nil =>
      intro table _
      rw [List.foldl_nil, List.append_nil]
    | cons field rest ih =>
      intro table h
      have hnew : ∀ other ∈ table, other.1.same field.1 = false := fun other hother =>
        (List.pairwise_append.1 h).2.2 other hother field List.mem_cons_self
      rw [← List.singleton_append, ← List.append_assoc] at h
      rw [List.foldl_cons, store_of_new field.2 hnew, ih _ h, List.append_assoc,
        List.singleton_append]
  exact hfold fields [] distinct

/-- Different texts are different keys. -/
theorem pairwise_same_of_nodup {fields : Fields} (named : ∀ field ∈ fields, ∃ name, field.1 = .text name)
    (distinct : (fields.map Prod.fst).Nodup) :
    fields.Pairwise fun a b => a.1.same b.1 = false := by
  have hpairs : fields.Pairwise fun a b => a.1 ≠ b.1 := List.pairwise_map.1 distinct
  refine hpairs.imp_of_mem fun {a b} ha hb hne => ?_
  obtain ⟨s, hs⟩ := named a ha
  obtain ⟨t, ht⟩ := named b hb
  rw [hs, ht] at hne ⊢
  exact decide_eq_false fun heq => hne (congrArg Key.text heq)

theorem readsAs_table {fields : Fields} {texts : List (List Char)}
    (h : List.Forall₂ FieldReadsAs fields texts) (distinct : (fields.map Prod.fst).Nodup)
    (layout : Layout) (level : Nat) :
    ReadsAs (.table fields) (bracketed layout level '\x7b' '\x7d' texts) := by
  by_cases hempty : texts = []
  · cases hempty
    cases h
    exact ⟨⟨_, _, rfl, by decide⟩, fun _ _ _ _ => rfl⟩
  · obtain ⟨s, hs, hread⟩ := readsInTurn_fields.exists_readAll_bracketed h hempty layout level '\x7b'
    rw [hs]
    refine ⟨⟨_, _, rfl, by decide⟩, fun fuel rest hfuel _ => ?_⟩
    obtain ⟨c, more, hskip, hc, hfields⟩ := hread fuel rest (Nat.le_of_succ_le_succ hfuel)
    rw [List.cons_append, readValue]
    simp only [hskip]
    split
    · next heq => exact absurd (List.cons.inj heq).1 hc
    · have hnames : List.Forall₂ (fun field s => (∃ name, field.1 = .text name) ∧ FieldReadsAs field s)
          fields texts := h.imp fun field s hfield => ⟨hfield.imp fun _ ⟨_, hname, _⟩ => hname, hfield⟩
      obtain ⟨hnamed, _⟩ := (List.forall₂_and_left fields texts).1 hnames
      rw [hfields]
      exact congrArg (fun fields => Except.ok (table fields, rest))
        (ofList_of_distinct (pairwise_same_of_nodup hnamed distinct))

/-! ## Documents -/

/-- The text of a plain document, the fields of its tables sorted, reads as the sorted document. -/
theorem readsAs_of_write {d : Document} (plain : d.Plain) {layout : Layout} (hsorted : layout.sorted)
    {level : Nat} {s : List Char} (h : d.write layout level = .ok s) : ReadsAs d.sorted s := by
  induction plain generalizing level s with
  | null =>
    cases h
    exact readsAs_null
  | bool b =>
    cases b
    · cases h
      exact readsAs_false
    · cases h
      exact readsAs_true
  | int n =>
    rw [write, writeInt] at h
    split at h
    · cases h
    · next hdigits =>
      cases h
      exact readsAs_int (Nat.not_lt.1 hdigits)
  | text whole =>
    cases h
    exact readsAs_text whole
  | list _ ih =>
    rw [write_list, map_eq_ok_iff] at h
    obtain ⟨texts, htexts, rfl⟩ := h
    rw [sorted_list]
    refine readsAs_list ?_ layout level
    rw [List.forall₂_map_left_iff]
    exact forall₂_of_mapM htexts fun item hitem text => ih item hitem
  | @table fields named distinct _ ih =>
    rw [write_table hsorted level named, map_eq_ok_iff] at h
    obtain ⟨texts, htexts, rfl⟩ := h
    rw [sorted_table]
    refine readsAs_table ?_ ?_ layout level
    · rw [List.forall₂_map_left_iff]
      refine forall₂_of_mapM htexts fun field hfield text htext => ?_
      obtain ⟨name, hname, whole⟩ := named field (Fields.mem_sort.1 hfield)
      rw [fieldText_of_name hname, map_eq_ok_iff] at htext
      obtain ⟨value, hvalue, rfl⟩ := htext
      exact ⟨name, value, hname, whole, ih field (Fields.mem_sort.1 hfield) hvalue, rfl⟩
    · rw [List.map_map]
      exact Fields.nodup_sort distinct

/-- **Documents in files.** Reading the text of a plain document gives the document, sorted. -/
theorem read_of_toText {d : Document} (plain : d.Plain) {layout : Layout} (hsorted : layout.sorted)
    {s : List Char} (h : d.toText layout = .ok s) : Document.read s = .ok d.sorted := by
  have hreads := readsAs_of_write plain hsorted h
  have hvalue : readValue (2 * s.length + 2) (skipBlanks s) = .ok (d.sorted, []) := by
    have hskip := hreads.skipBlanks_append []
    have hread := hreads.readValue_append (by omega : s.length ≤ 2 * s.length + 2) stops_nil
    rw [List.append_nil] at hskip hread
    rw [hskip, hread]
  have hwhole : readWholeText s = .ok d.sorted := by
    obtain ⟨c, more, rfl, _, _, hc⟩ := hreads.starts
    unfold readWholeText
    split
    · next heq => exact absurd (List.cons.inj heq).1 hc
    · rw [hvalue]
      rfl
  unfold Document.read
  rw [hwhole]

end Document

end VisualNovel
