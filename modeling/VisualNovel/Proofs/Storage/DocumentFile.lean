import VisualNovel.Proofs.Document.Canonical
import VisualNovel.Proofs.Document.RoundTrip
import VisualNovel.Proofs.Storage.Disk
import VisualNovel.Storage.DocumentFile

/-!
# Documents on the disk

The text of a plain document is ASCII without carriage returns (`inFile_of_write`), so its bytes give it
back with all line ends. Hence a file that holds the text of a plain document gives the document, sorted
(`loadDocument_of_read`), and two plain documents have the same bytes exactly when they are the same sorted
(`Document.bytes_eq_iff`). Saving, where it succeeds, leaves such a file (`exists_text_of_saveDocument`).
-/

namespace VisualNovel

/-! ## ASCII texts -/

/-- A character that a document file may hold. -/
def InFile (c : Char) : Prop :=
  c.toNat < 0x80 ∧ c ≠ '\r'

instance (c : Char) : Decidable (InFile c) :=
  inferInstanceAs (Decidable (c.toNat < 0x80 ∧ c ≠ '\r'))

theorem inFile_of_all {text : List Char} (h : text.all (fun c => InFile c) = true) :
    ∀ c ∈ text, InFile c := by
  simpa using h

theorem Utf8.encodeChar_of_ascii {c : Char} (h : c.toNat < 0x80) :
    String.utf8EncodeChar c = [UInt8.ofNat c.toNat] := by
  have hval : c.val.toNat ≤ 127 := Nat.le_of_lt_succ h
  unfold String.utf8EncodeChar
  simp only [hval, if_pos]
  rfl

theorem Utf8.decodeFrom_encode {text : List Char} (h : ∀ c ∈ text, c.toNat < 0x80) (position : Nat) :
    decodeFrom position none (encode text) = .ok text := by
  induction text generalizing position with
  | nil => rfl
  | cons c text ih =>
    obtain ⟨hc, htext⟩ := List.forall_mem_cons.1 h
    have hnat : (UInt8.ofNat c.toNat).toNat = c.toNat := by
      rw [UInt8.toNat_ofNat']
      omega
    have hlow : UInt8.ofNat c.toNat < 0x80 := by
      rw [UInt8.lt_iff_toNat_lt, hnat]
      exact hc
    unfold encode at ih ⊢
    rw [List.flatMap_cons, encodeChar_of_ascii hc, List.singleton_append, decodeFrom, if_pos hlow,
      ih htext, hnat, Char.ofNat_toNat]
    rfl

/-- The bytes of a text that a file may hold give the text. -/
theorem Utf8.decode_of_inFile {text : List Char} (h : ∀ c ∈ text, InFile c) :
    decode (encode text) = .ok text :=
  decodeFrom_encode (fun c hc => (h c hc).1) 0

theorem Utf8.unifyNewlines_of_inFile {text : List Char} (h : ∀ c ∈ text, InFile c) :
    unifyNewlines text = text := by
  induction text with
  | nil => rfl
  | cons c text ih =>
    obtain ⟨hc, htext⟩ := List.forall_mem_cons.1 h
    rw [unifyNewlines, ih htext]
    all_goals
      have := hc.2
      simp [this]

namespace Document

theorem inFile_digitChar : ∀ d < 16, InFile (Nat.digitChar d) := by decide

theorem inFile_unitEscape {unit : Nat} (h : unit < 0x10000) : ∀ c ∈ unitEscape unit, InFile c := by
  have hdigit : ∀ n, InFile (Nat.digitChar (n % 16)) := fun n =>
    inFile_digitChar _ (Nat.mod_lt n (by decide))
  have hfirst : InFile (Nat.digitChar (unit / 0x1000)) := inFile_digitChar _ (by omega)
  unfold unitEscape
  rw [hex_four h]
  intro c hc
  simp only [List.mem_cons, List.not_mem_nil, or_false] at hc
  obtain rfl | rfl | rfl | rfl | rfl | rfl := hc
  · decide
  · decide
  · exact hfirst
  · exact hdigit _
  · exact hdigit _
  · exact hdigit _

theorem inFile_of_escaped {letter c : Char} (h : escaped? letter = some c) : InFile letter := by
  unfold escaped? at h
  split_ifs at h with hself hb hf hn hr ht
  · have hletter : (letter = '"' ∨ letter = '\\') ∨ letter = '/' := by simpa using hself
    obtain (rfl | rfl) | rfl := hletter <;> decide
  all_goals
    subst letter
    decide

theorem inFile_writePoint (point : CodePoint) : ∀ c ∈ writePoint point, InFile c := by
  cases point with
  | char d =>
    show ∀ c ∈ writeChar d, InFile c
    have hmax := CodePoint.toNat_char d
    rcases writeChar_cases d with ⟨_, letter, hletter, hw⟩ | ⟨_, _, low, high, hw⟩ | ⟨hd, hw⟩ | ⟨hd, hw⟩
    · rw [hw, List.forall_mem_cons, List.forall_mem_singleton]
      exact ⟨by decide, inFile_of_escaped hletter⟩
    · rw [hw, List.forall_mem_singleton]
      refine ⟨by omega, ?_⟩
      rintro rfl
      exact absurd low (by decide)
    · rw [hw]
      exact inFile_unitEscape hd
    · rw [hw, List.forall_mem_append]
      exact ⟨inFile_unitEscape (by omega), inFile_unitEscape (by omega)⟩
  | half offset =>
    have hmax : 0xd800 + offset.val < 0x10000 := by omega
    exact inFile_unitEscape hmax

theorem inFile_writeText (text : Text) : ∀ c ∈ writeText text, InFile c := by
  unfold writeText
  rw [List.forall_mem_cons, List.forall_mem_append, List.forall_mem_singleton]
  refine ⟨by decide, ?_, by decide⟩
  intro c hc
  obtain ⟨point, _, hpoint⟩ := List.mem_flatMap.1 hc
  exact inFile_writePoint point c hpoint

theorem inFile_of_isDigit {c : Char} (h : isDigit c) : InFile c := by
  have hc : '0' ≤ c ∧ c ≤ '9' := by simpa [isDigit] using h
  refine ⟨Nat.lt_of_le_of_lt hc.2 (by decide), ?_⟩
  rintro rfl
  cases h

theorem inFile_intText (n : Int) : ∀ c ∈ (intText n).toList, InFile c := by
  intro c hc
  rcases mem_intText hc with rfl | hdigit
  · decide
  · exact inFile_of_isDigit hdigit

theorem inFile_intercalate {sep : List Char} (hsep : ∀ c ∈ sep, InFile c) {texts : List (List Char)}
    (h : ∀ text ∈ texts, ∀ c ∈ text, InFile c) : ∀ c ∈ sep.intercalate texts, InFile c := by
  induction texts with
  | nil => exact List.forall_mem_nil _
  | cons text texts ih =>
    obtain ⟨htext, htexts⟩ := List.forall_mem_cons.1 h
    cases texts with
    | nil =>
      rw [List.intercalate_singleton]
      exact htext
    | cons next texts =>
      rw [List.intercalate_cons_cons, List.forall_mem_append, List.forall_mem_append]
      exact ⟨⟨htext, hsep⟩, ih htexts⟩

theorem inFile_lineBreak (indent level : Nat) : ∀ c ∈ lineBreak indent level, InFile c := by
  unfold lineBreak
  rw [List.forall_mem_cons]
  refine ⟨by decide, fun c hc => ?_⟩
  rw [List.eq_of_mem_replicate hc]
  decide

theorem inFile_bracketed (layout : Layout) (level : Nat) {left right : Char} (hleft : InFile left)
    (hright : InFile right) {texts : List (List Char)} (h : ∀ text ∈ texts, ∀ c ∈ text, InFile c) :
    ∀ c ∈ bracketed layout level left right texts, InFile c := by
  unfold bracketed
  split
  · rw [List.forall_mem_cons, List.forall_mem_singleton]
    exact ⟨hleft, hright⟩
  split
  · rw [List.forall_mem_cons, List.forall_mem_append, List.forall_mem_singleton]
    exact ⟨hleft, inFile_intercalate (inFile_of_all rfl) h, hright⟩
  · next indent _ =>
    have hsep : ∀ c ∈ ',' :: lineBreak indent (level + 1), InFile c :=
      List.forall_mem_cons.2 ⟨by decide, inFile_lineBreak indent (level + 1)⟩
    rw [List.forall_mem_cons, List.forall_mem_append, List.forall_mem_append, List.forall_mem_append,
      List.forall_mem_singleton]
    exact ⟨hleft, ⟨⟨inFile_lineBreak _ _, inFile_intercalate hsep h⟩, inFile_lineBreak _ _⟩, hright⟩

theorem inFile_of_write {d : Document} (plain : d.Plain) {layout : Layout} (hsorted : layout.sorted)
    {level : Nat} {s : List Char} (h : d.write layout level = .ok s) : ∀ c ∈ s, InFile c := by
  induction plain generalizing level s with
  | null =>
    cases h
    exact inFile_of_all rfl
  | bool b =>
    cases b <;>
    · cases h
      exact inFile_of_all rfl
  | int n =>
    rw [write, writeInt] at h
    split at h
    · cases h
    · cases h
      exact inFile_intText n
  | text _ =>
    cases h
    exact inFile_writeText _
  | list _ ih =>
    rw [write_list, map_eq_ok_iff] at h
    obtain ⟨texts, htexts, rfl⟩ := h
    refine inFile_bracketed layout level (by decide) (by decide) fun text htext => ?_
    obtain ⟨item, hitem, hwrite⟩ := exists_of_mem_mapM htexts htext
    exact ih item hitem hwrite
  | @table fields named _ _ ih =>
    rw [write_table hsorted level named, map_eq_ok_iff] at h
    obtain ⟨texts, htexts, rfl⟩ := h
    refine inFile_bracketed layout level (by decide) (by decide) fun text htext => ?_
    obtain ⟨field, hfield, hwrite⟩ := exists_of_mem_mapM htexts htext
    obtain ⟨name, hname, _⟩ := named field (Fields.mem_sort.1 hfield)
    rw [fieldText_of_name hname, map_eq_ok_iff] at hwrite
    obtain ⟨value, hvalue, rfl⟩ := hwrite
    unfold writeField
    rw [List.forall_mem_append, List.forall_mem_cons, List.forall_mem_cons]
    exact ⟨inFile_writeText name, by decide, by decide, ih field (Fields.mem_sort.1 hfield) hvalue⟩

end Document

namespace Written

variable (event : FileEvent) (written : Written)

end Written

namespace Disk

open Document

/-- **Files of documents.** A file with the text of a plain document gives the document, sorted. -/
theorem loadDocument_of_read {disk : Disk} {path : Path} {d : Document} (plain : d.Plain)
    {s : List Char} (htext : d.toText .file = .ok s) (hread : disk.read path = .ok (Utf8.encode s)) :
    disk.loadDocument path = .ok d.sorted := by
  have hfile := inFile_of_write plain rfl htext
  unfold loadDocument
  simp only [hread, Utf8.decode_of_inFile hfile, Utf8.unifyNewlines_of_inFile hfile,
    read_of_toText plain rfl htext]

/-- Under a path that can be written, saving fails only for want of a text. -/
theorem Writable.saveDocument {disk : Disk} {path : Path} (h : disk.Writable path) (d : Document) :
    (disk.saveDocument path d).result =
      match d.toText .file with
      | .ok _ => .ok ()
      | .error fault => .error (.unwritable fault) := by
  obtain ⟨hmade, hput⟩ := h.made
  unfold Disk.saveDocument
  simp only [hmade]
  cases d.toText .file with
  | error fault => rfl
  | ok text =>
    obtain ⟨after, hafter⟩ := hput (Utf8.encode text)
    simp only [hafter]
    rfl

/-- Saving a document that has a text in an open folder stores the text. -/
theorem Opens.saveDocument {disk : Disk} {folder place path target : Path}
    (h : disk.Opens folder place) (hparent : path.parent = folder)
    (hresolve : disk.resolve path = .ok target) (hfree : disk.node? target ≠ some .folder)
    {d : Document} {text : List Char} (htext : d.toText .file = .ok text) :
    disk.saveDocument path d =
      ⟨OrderedMap.insert disk target.text (.file (Utf8.encode text)), [], .ok ()⟩ := by
  have hput := put_of_resolve hresolve (Utf8.encode text)
  split at hput
  · next hfolder => exact absurd hfolder hfree
  · unfold Disk.saveDocument
    simp only [hparent, h.makeFolder, htext, hput]
    rfl

/-- Saving a document without a text in an open folder changes nothing. -/
theorem Opens.saveDocument_unwritable {disk : Disk} {folder place path : Path}
    (h : disk.Opens folder place) (hparent : path.parent = folder) {d : Document}
    {fault : Unwritable} (htext : d.toText .file = .error fault) :
    disk.saveDocument path d = .refused disk (.unwritable fault) := by
  unfold Disk.saveDocument
  simp only [hparent, h.makeFolder, htext]

end Disk

end VisualNovel
