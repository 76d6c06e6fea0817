import Mathlib.Data.List.Forall2
import VisualNovel.AssetPath

/-!
# Asset names and how their paths are written

1. Slashes and backslashes are told apart nowhere, so paths that differ in them alone have one name
   (`stem?_eq_of_respelled`).
2. Drive, share and prefix are cut off a path and the rest is cut into pieces, so a name is not empty and
   holds no separator (`not_isSeparator_of_stem?`).
3. A path that does not start with two separators keeps its last separator and the file behind it, whatever
   is cut off (`exists_relative_eq`). So its name is that of the file without the extension (`stem?_file`).
-/

namespace VisualNovel.AssetPath

/-- A character between the names in a path. -/
def IsSeparator (c : Char) : Prop := c = '/' ∨ c = '\\'

instance (c : Char) : Decidable (IsSeparator c) :=
  inferInstanceAs (Decidable (c = '/' ∨ c = '\\'))

/-- The paths differ at most in which separators they use. -/
def Respelled (path other : String) : Prop :=
  List.Forall₂ (fun c d => c = d ∨ IsSeparator c ∧ IsSeparator d) path.toList other.toList

/-- The path starts with two separators, as those of shares and extended paths do. -/
def StartsTwice (path : List Char) : Prop :=
  ∃ c d rest, path = c :: d :: rest ∧ IsSeparator c ∧ IsSeparator d

variable {path other folder file name extension : List Char} {separator : Char}

/-! ## Separators -/

theorem unify_eq_of_forall₂
    (h : List.Forall₂ (fun c d => c = d ∨ IsSeparator c ∧ IsSeparator d) path other) :
    unify path = unify other := by
  induction h with
  | nil => rfl
  | @cons c d path other hcd _ ih =>
    unfold unify at ih ⊢
    rw [List.map_cons, List.map_cons, ih]
    rcases hcd with rfl | ⟨rfl | rfl, rfl | rfl⟩ <;> rfl

/-- The name does not depend on which separators a path uses. -/
theorem stem?_eq_of_respelled {path other : String} (h : Respelled path other) :
    stem? path = stem? other := by
  unfold stem? components relative
  rw [unify_eq_of_forall₂ h]

theorem slash_not_mem_unify (path : List Char) : '/' ∉ unify path := by
  intro h
  obtain ⟨c, _, hc⟩ := List.mem_map.1 h
  split at hc
  · cases hc
  · next hslash => exact hslash hc

theorem unify_file (hseparator : IsSeparator separator) (hfile : ∀ c ∈ file, ¬IsSeparator c) :
    unify (folder ++ separator :: file) = unify folder ++ '\\' :: file := by
  have hsame : file.map (fun c => if c = '/' then '\\' else c) = file.map id :=
    List.map_congr_left fun c hc => if_neg fun hslash => hfile c hc (.inl hslash)
  unfold unify
  rw [List.map_append, List.map_cons, hsame, List.map_id]
  rcases hseparator with rfl | rfl <;> rfl

theorem unify_ne_of_not_startsTwice (h : ¬StartsTwice path) (rest : List Char) :
    unify path ≠ '\\' :: '\\' :: rest := by
  have hseparator : ∀ c, (if c = '/' then '\\' else c) = '\\' → IsSeparator c := by
    intro c hc
    split at hc
    · next hslash => exact .inl hslash
    · exact .inr hc
  intro hpath
  obtain ⟨c, more, rfl, hc, hmore⟩ := List.map_eq_cons_iff.1 hpath
  obtain ⟨d, tail, rfl, hd, _⟩ := List.map_eq_cons_iff.1 hmore
  exact h ⟨c, d, tail, rfl, hseparator c hc, hseparator d hd⟩

/-! ## What is cut off the start -/

theorem dropExtended_subset (path : List Char) : dropExtended path ⊆ path := by
  unfold dropExtended
  split
  · intro c hc
    simp only [List.mem_cons] at hc ⊢
    tauto
  · intro c hc
    simp only [List.mem_cons]
    tauto
  · exact List.Subset.refl _

theorem afterShare?_subset (h : afterShare? path = some other) : other ⊆ path := by
  unfold afterShare? at h
  split at h
  · next rest =>
    split_ifs at h
    split at h
    · next first share hshare =>
      split_ifs at h
      cases h
      have hrest : share ⊆ rest := fun c hc =>
        (List.dropWhile_suffix _).subset (hshare ▸ List.mem_cons_of_mem first hc)
      intro c hc
      have hmem : c ∈ share := (List.dropWhile_suffix _).subset (List.mem_of_mem_drop hc)
      exact List.mem_cons_of_mem _ (List.mem_cons_of_mem _ (hrest hmem))
    · cases h
  · cases h

theorem dropDrive_subset (path : List Char) : dropDrive path ⊆ path := by
  unfold dropDrive
  split
  · split
    · exact fun c hc => List.mem_cons_of_mem _ (List.mem_cons_of_mem _ hc)
    · exact List.Subset.refl _
  · exact List.Subset.refl _

theorem relative_subset (path : List Char) : relative path ⊆ unify path := by
  refine List.Subset.trans ?_ (dropExtended_subset (unify path))
  show (afterShare? (dropExtended (unify path))).getD (dropDrive (dropExtended (unify path))) ⊆ _
  cases hshare : afterShare? (dropExtended (unify path)) with
  | none => exact dropDrive_subset _
  | some rest => exact afterShare?_subset hshare

/-- A drive that is cut off stands before the last separator. -/
theorem exists_dropDrive_eq (start file : List Char) :
    ∃ rest, dropDrive (start ++ '\\' :: file) = rest ++ '\\' :: file := by
  match start with
  | [] =>
    refine ⟨[], ?_⟩
    unfold dropDrive
    split
    · next hpath =>
      cases hpath
      rfl
    · rfl
  | [c] =>
    refine ⟨[c], ?_⟩
    unfold dropDrive
    split
    · next hpath => cases hpath
    · rfl
  | c :: d :: start =>
    unfold dropDrive
    split
    · next hpath =>
      cases hpath
      split
      · exact ⟨start, rfl⟩
      · exact ⟨c :: ':' :: start, rfl⟩
    · exact ⟨c :: d :: start, rfl⟩

/-- A path that does not start with two separators keeps its end. -/
theorem exists_relative_eq (hseparator : IsSeparator separator) (hfile : ∀ c ∈ file, ¬IsSeparator c)
    (hstart : ¬StartsTwice (folder ++ separator :: file)) :
    ∃ rest, relative (folder ++ separator :: file) = rest ++ '\\' :: file := by
  have hne := unify_ne_of_not_startsTwice hstart
  rw [unify_file hseparator hfile] at hne
  have hextended : dropExtended (unify folder ++ '\\' :: file) = unify folder ++ '\\' :: file := by
    unfold dropExtended
    split
    · next hpath => exact absurd hpath (hne _)
    · next hpath => exact absurd hpath (hne _)
    · rfl
  have hshare : afterShare? (unify folder ++ '\\' :: file) = none := by
    unfold afterShare?
    split
    · next hpath => exact absurd hpath (hne _)
    · rfl
  unfold relative
  simp only [unify_file hseparator hfile, hextended, hshare, Option.getD_none]
  exact exists_dropDrive_eq _ _

/-! ## Names -/

theorem mem_components (h : name ∈ components path) : name ≠ [] ∧ ∀ c ∈ name, ¬IsSeparator c := by
  obtain ⟨hpiece, hkept⟩ := List.mem_filter.1 h
  have hempty : name ≠ [] ∧ name ≠ ['.'] := by simpa using hkept
  refine ⟨hempty.1, fun c hc => ?_⟩
  obtain ⟨hmem, hback⟩ := Text.mem_of_mem_pieces hpiece hc
  rintro (rfl | rfl)
  · exact slash_not_mem_unify path (relative_subset path hmem)
  · exact hback rfl

/-- The part of a name before its extension, if it has one, is not empty. -/
theorem dropExtension_cases (name : List Char) :
    dropExtension name = name ∨
      dropExtension name ≠ [] ∧ ∃ extension, name = dropExtension name ++ '.' :: extension := by
  unfold dropExtension
  split
  · next point base hdrop =>
    split
    · exact .inl rfl
    · next hkept =>
      have hbase : base ≠ [] := fun h => hkept (by simp [h])
      obtain rfl : point = '.' := by
        have hhead := List.head?_dropWhile_not (· ≠ '.') name.reverse
        rw [hdrop] at hhead
        simpa using hhead
      have hsplit := List.takeWhile_append_dropWhile (p := (· ≠ '.')) (l := name.reverse)
      rw [hdrop] at hsplit
      refine .inr ⟨List.reverse_ne_nil_iff.2 hbase, (name.reverse.takeWhile (· ≠ '.')).reverse, ?_⟩
      rw [← List.reverse_inj, List.reverse_append, List.reverse_cons, List.reverse_reverse,
        List.reverse_reverse, List.append_assoc, List.singleton_append, hsplit]
  · exact .inl rfl

theorem dropExtension_file (hname : name ≠ []) (hextension : extension ≠ [])
    (hpoint : '.' ∉ extension) : dropExtension (name ++ '.' :: extension) = name := by
  -- the name is read from its end: first the characters of the extension, the last one `c`
  obtain ⟨c, more, hlast⟩ := List.exists_cons_of_ne_nil (List.reverse_ne_nil_iff.2 hextension)
  have hbehind : ∀ d ∈ c :: more, d ≠ '.' := by
    intro d hd heq
    rw [← hlast, List.mem_reverse, heq] at hd
    exact hpoint hd
  have hreverse : (name ++ '.' :: extension).reverse = c :: more ++ '.' :: name.reverse := by
    rw [← hlast, List.reverse_append, List.reverse_cons, List.append_assoc, List.singleton_append]
  have hdrop : (c :: more ++ '.' :: name.reverse).dropWhile (· ≠ '.') = '.' :: name.reverse := by
    rw [List.dropWhile_append_of_pos (by simpa using hbehind), List.dropWhile_cons_of_neg (by simp)]
  unfold dropExtension
  rw [hreverse, hdrop]
  simp [hname, hbehind c List.mem_cons_self]

/-- A name is not empty and holds no separator. -/
theorem not_isSeparator_of_stem? {path name : String} (h : stem? path = some name) :
    name ≠ "" ∧ ∀ c ∈ name.toList, ¬IsSeparator c := by
  obtain ⟨piece, hpiece, rfl⟩ := Option.map_eq_some_iff.1 h
  obtain ⟨hempty, hseparator⟩ := mem_components (List.mem_of_getLast? hpiece)
  rw [String.toList_ofList, Ne, String.ofList_eq_empty_iff]
  rcases dropExtension_cases piece with hsame | ⟨hbase, extension, hextension⟩
  · rw [hsame]
    exact ⟨hempty, hseparator⟩
  · refine ⟨hbase, fun c hc => hseparator c ?_⟩
    rw [hextension]
    exact List.mem_append_left _ hc

/-- A file at the end of a path that does not start with two separators gives the name. -/
theorem stem?_file {path : String}
    (hpath : path.toList = folder ++ separator :: (name ++ '.' :: extension))
    (hseparator : IsSeparator separator) (hname : name ≠ []) (hextension : extension ≠ [])
    (hnames : ∀ c ∈ name, ¬IsSeparator c) (hextensions : ∀ c ∈ extension, ¬IsSeparator c ∧ c ≠ '.')
    (hstart : ¬StartsTwice path.toList) : stem? path = some (String.ofList name) := by
  have hpoint : '.' ∉ extension := fun h => (hextensions _ h).2 rfl
  have hfile : ∀ c ∈ name ++ '.' :: extension, ¬IsSeparator c := by
    rw [List.forall_mem_append, List.forall_mem_cons]
    exact ⟨hnames, by decide, fun c hc => (hextensions c hc).1⟩
  rw [hpath] at hstart
  obtain ⟨rest, hrest⟩ := exists_relative_eq hseparator hfile hstart
  have hpieces : Text.pieces '\\' (name ++ '.' :: extension) = [name ++ '.' :: extension] :=
    Text.pieces_of_not_mem fun h => hfile _ h (.inr rfl)
  have hlong : name ++ '.' :: extension ≠ ['.'] := by
    intro h
    have hlength := congrArg List.length h
    have hpositive := List.length_pos_iff.2 hname
    rw [List.length_append, List.length_cons, List.length_singleton] at hlength
    omega
  have hlast : (components path.toList).getLast? = some (name ++ '.' :: extension) := by
    unfold components
    rw [hpath, hrest, Text.pieces_append, hpieces, List.filter_append]
    simp [hlong]
  unfold stem?
  rw [hlast, Option.map_some, dropExtension_file hname hextension hpoint]

/-- **Names do not depend on the spelling.** A name is not empty and without separators, and paths that differ
in which separators they use have the same. A file at the end of a path, behind a folder and a separator, is
known by its name without the extension, whatever dots or colons are in it, unless the path starts with two
separators. -/
theorem names_independent_of_spelling :
    (∀ path name, stem? path = some name → name ≠ "" ∧ '/' ∉ name.toList ∧ '\\' ∉ name.toList) ∧
    (∀ path other, Respelled path other → stem? path = stem? other) ∧
    ∀ folder separator name extension : String, separator = "/" ∨ separator = "\\" →
      name ≠ "" → (∀ c ∈ name.toList, ¬IsSeparator c) →
      extension ≠ "" → (∀ c ∈ extension.toList, ¬IsSeparator c ∧ c ≠ '.') →
      ¬StartsTwice (folder ++ separator ++ name ++ "." ++ extension).toList →
      stem? (folder ++ separator ++ name ++ "." ++ extension) = some name := by
  refine ⟨fun path name h => ?_, fun path other => stem?_eq_of_respelled, ?_⟩
  · obtain ⟨hempty, hseparator⟩ := not_isSeparator_of_stem? h
    exact ⟨hempty, fun hc => hseparator _ hc (.inl rfl), fun hc => hseparator _ hc (.inr rfl)⟩
  · intro folder separator name extension hseparator hname hnames hextension hextensions hstart
    have hfile : ∀ c, IsSeparator c → separator.toList = [c] →
        stem? (folder ++ separator ++ name ++ "." ++ extension) = some (String.ofList name.toList) := by
      intro c hc htext
      have hpath : (folder ++ separator ++ name ++ "." ++ extension).toList =
          folder.toList ++ c :: (name.toList ++ '.' :: extension.toList) := by
        simp [htext]
      exact stem?_file hpath hc (mt String.toList_eq_nil_iff.1 hname)
        (mt String.toList_eq_nil_iff.1 hextension) hnames hextensions hstart
    rw [String.ofList_toList] at hfile
    rcases hseparator with rfl | rfl
    · exact hfile '/' (.inl rfl) rfl
    · exact hfile '\\' (.inr rfl) rfl

/-- The drive, the folder that stays in place and the one that leads back are no part of the name, the dot and
the colon in it are. -/
theorem names_independent_of_spelling_on_drive :
    stem? "C:.\\cg//..\\ev.01:dusk.png" = some "ev.01:dusk" ∧
      Respelled "C:.\\cg//..\\ev.01:dusk.png" "C:./cg\\/../ev.01:dusk.png" ∧
      stem? "C:./cg\\/../ev.01:dusk.png" = some "ev.01:dusk" := by
  obtain ⟨_, hrespelled, hfile⟩ := names_independent_of_spelling
  have hname : stem? "C:.\\cg//..\\ev.01:dusk.png" = some "ev.01:dusk" := by
    refine hfile "C:.\\cg//.." "\\" "ev.01:dusk" "png" (.inr rfl) (by decide) (by simp [IsSeparator])
      (by decide) (by simp [IsSeparator]) ?_
    rintro ⟨c, d, rest, hpath, hc, -⟩
    cases hpath
    revert hc
    decide
  have hother : Respelled "C:.\\cg//..\\ev.01:dusk.png" "C:./cg\\/../ev.01:dusk.png" := by
    unfold Respelled
    decide
  exact ⟨hname, hother, (hrespelled _ _ hother).symm.trans hname⟩

end VisualNovel.AssetPath
