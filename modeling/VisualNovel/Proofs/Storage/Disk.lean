import VisualNovel.Proofs.Except
import VisualNovel.Storage.Disk

/-!
# Files in a folder

What happens to the files of one folder. A folder is open at a place (`Disk.Opens`) when its path leads
there and a folder stands there; it stays open under every change that keeps the folders
(`Opens.of_keeps`). In an open folder the path of a name leads to the place of that name
(`Opens.resolve_inside`), different names have different places (`text_inside_injective`), and storing or
erasing a file changes what stands at its own place alone (`node?_insert_inside`, `node?_erase_inside`).
Whatever the folder, a file that was put somewhere is read there (`read_of_put`). Whether a path can be
written does not depend on what is written (`Disk.Writable`).
-/

namespace VisualNovel

namespace Path

/-- The path of a name in a folder. -/
def inside (folder : Path) (name : String) : Path :=
  ⟨folder.root, folder.parts ++ [name]⟩

/-- A text without slashes that is not empty and does not stay in place names a child by itself. -/
theorem child_eq_inside (folder : Path) {name : String} (slash : '/' ∉ name.toList) (empty : name ≠ "")
    (stay : name ≠ ".") : folder.child name = folder.inside name := by
  have hempty : name.toList ≠ [] := fun h => empty (String.toList_eq_nil_iff.1 h)
  have hstay : name.toList ≠ ['.'] := fun h => stay (String.toList_inj.1 h)
  have hroot : rootOf name = "" := by
    obtain ⟨c, rest, hname⟩ := List.exists_cons_of_ne_nil hempty
    have hc : c ≠ '/' := fun heq => slash (by rw [hname, heq]; exact List.mem_cons_self)
    unfold rootOf
    rw [hname, List.takeWhile_cons_of_neg (by simpa using hc)]
    rfl
  have hparts : partsOf name = [name] := by
    unfold partsOf
    rw [Text.pieces_of_not_mem slash]
    simp [hempty, hstay]
  unfold child
  rw [if_pos hroot, hparts]
  rfl

/-- A path that the disk takes: no character ends it early, and neither it nor a name in it is too long. -/
structure Fits (path : Path) : Prop where
  no_null : '\x00' ∉ path.text.toList
  length : path.text.utf8ByteSize ≤ longestPath
  names : ∀ name ∈ path.parts, name.utf8ByteSize ≤ longestName

variable {folder place : Path} {name other : String}

@[simp] theorem parent_inside : (folder.inside name).parent = folder := by
  unfold parent inside
  rw [List.dropLast_concat]

theorem exists_intercalate_concat (parts : List String) :
    ∃ start : String, ∀ name, "/".intercalate (parts ++ [name]) = start ++ name := by
  induction parts with
  | nil =>
    refine ⟨"", fun name => ?_⟩
    rw [List.nil_append, String.intercalate_singleton, String.empty_append]
  | cons part rest ih =>
    obtain ⟨start, hstart⟩ := ih
    refine ⟨part ++ "/" ++ start, fun name => ?_⟩
    obtain ⟨next, more, hnext⟩ := List.exists_cons_of_ne_nil (List.concat_ne_nil name rest)
    rw [List.cons_append, String.append_assoc, ← hstart name]
    rw [hnext, String.intercalate_cons_cons]

/-- The text of a path inside a folder ends with the name. -/
theorem exists_text_inside (place : Path) :
    ∃ start : String, ∀ name, name ≠ "" → (place.inside name).text = start ++ name := by
  obtain ⟨start, hstart⟩ := exists_intercalate_concat place.parts
  refine ⟨place.root ++ start, fun name hname => ?_⟩
  have hjoined : place.root ++ start ++ name ≠ "" := fun h =>
    hname (String.append_eq_empty_iff.1 h).2
  unfold text inside
  simp only [hstart, ← String.append_assoc, if_neg hjoined]

theorem text_inside_injective (hname : name ≠ "") (hother : other ≠ "")
    (h : (place.inside name).text = (place.inside other).text) : name = other := by
  obtain ⟨start, hstart⟩ := exists_text_inside place
  rw [hstart name hname, hstart other hother] at h
  exact (String.append_right_inj start).1 h

end Path

namespace Disk

open VisualNovel.Path

variable {disk after : Disk} {path folder place : Path} {name other : String}

/-! ## Following paths -/

theorem node?_inside (hname : name ≠ back) :
    disk.node? (place.inside name) = OrderedMap.get? disk (place.inside name).text := by
  have hback : (place.inside name).parts.all (· = back) = false := by
    unfold inside
    simp [hname]
  unfold node?
  rw [hback]
  rfl

theorem resolve_eq_ok_iff : disk.resolve path = .ok place ↔
    '\x00' ∉ path.text.toList ∧ path.text.utf8ByteSize ≤ longestPath ∧
      path.parts.foldlM disk.step ⟨path.root, []⟩ = .ok place := by
  unfold Disk.resolve
  by_cases hnull : '\x00' ∈ path.text.toList
  · simp [hnull]
  by_cases hlong : longestPath < path.text.utf8ByteSize
  · simp [hnull, hlong, Nat.not_le.2 hlong]
  · simp [hnull, hlong, Nat.not_lt.1 hlong]

theorem find_of_resolve (h : disk.resolve path = .ok place) :
    disk.find path = match disk.node? place with
      | some node => .ok node
      | none => .error .missing := by
  unfold Disk.find
  rw [h]
  rfl

/-- Every folder of the first disk is one of the second. -/
def KeepsFolders (before after : Disk) : Prop :=
  ∀ key, OrderedMap.get? before key = some .folder → OrderedMap.get? after key = some .folder

theorem KeepsFolders.node? (keeps : KeepsFolders disk after) (h : disk.node? place = some .folder) :
    after.node? place = some .folder := by
  unfold Disk.node? at h ⊢
  split
  · rfl
  · next hback =>
    rw [if_neg hback] at h
    exact keeps _ h

theorem KeepsFolders.step (keeps : KeepsFolders disk after) (h : disk.step place name = .ok path) :
    after.step place name = .ok path := by
  unfold Disk.step at h ⊢
  split at h
  · cases h
  · cases h
  · next hnode =>
    rw [keeps.node? hnode]
    exact h

theorem KeepsFolders.resolve (keeps : KeepsFolders disk after) (h : disk.resolve path = .ok place) :
    after.resolve path = .ok place := by
  have hfold : ∀ (parts : List String) (start : Path), parts.foldlM disk.step start = .ok place →
      parts.foldlM after.step start = .ok place := by
    intro parts
    induction parts with
    | nil =>
      intro start h
      exact h
    | cons part rest ih =>
      intro start h
      rw [List.foldlM_cons, bind_eq_ok_iff] at h ⊢
      obtain ⟨next, hnext, hrest⟩ := h
      exact ⟨next, keeps.step hnext, ih next hrest⟩
  rw [resolve_eq_ok_iff] at h ⊢
  exact ⟨h.1, h.2.1, hfold _ _ h.2.2⟩

/-! ## Open folders -/

/-- The path leads to the place, and a folder stands there. -/
structure Opens (disk : Disk) (folder place : Path) : Prop where
  resolves : disk.resolve folder = .ok place
  isFolder : disk.node? place = some .folder

namespace Opens

theorem of_keeps (h : disk.Opens folder place) (keeps : KeepsFolders disk after) :
    after.Opens folder place :=
  ⟨keeps.resolve h.resolves, keeps.node? h.isFolder⟩

/-- In an open folder the path of a name leads to the place of the name. -/
theorem resolve_inside (h : disk.Opens folder place) (hname : name ≠ back)
    (fits : (folder.inside name).Fits) :
    disk.resolve (folder.inside name) = .ok (place.inside name) := by
  have hsize : name.utf8ByteSize ≤ longestName :=
    fits.names name (List.mem_append_right _ List.mem_cons_self)
  have hstep : disk.step place name = .ok (place.inside name) := by
    unfold Disk.step
    rw [h.isFolder]
    simp only [if_neg hname, if_neg (Nat.not_lt.2 hsize)]
    rfl
  obtain ⟨_, _, hfolder⟩ := resolve_eq_ok_iff.1 h.resolves
  refine resolve_eq_ok_iff.2 ⟨fits.no_null, fits.length, ?_⟩
  show (folder.parts ++ [name]).foldlM disk.step ⟨folder.root, []⟩ = _
  rw [List.foldlM_append, bind_eq_ok_iff]
  refine ⟨place, hfolder, ?_⟩
  rw [List.foldlM_cons, bind_eq_ok_iff]
  exact ⟨place.inside name, hstep, rfl⟩

theorem makeFolder (h : disk.Opens folder place) : disk.makeFolder folder = ⟨disk, .ok ()⟩ := by
  rw [Disk.makeFolder, makeOne, find_of_resolve h.resolves, h.isFolder]

end Opens

/-! ## Files -/

theorem holds_of_resolve (h : disk.resolve path = .ok place) :
    disk.holds path = .ok (disk.node? place).isSome := by
  unfold holds
  rw [find_of_resolve h]
  cases disk.node? place <;> rfl

theorem read_of_resolve (h : disk.resolve path = .ok place) :
    disk.read path = match disk.node? place with
      | some (.file bytes) => .ok bytes
      | some .folder => .error .isFolder
      | none => .error .missing := by
  unfold Disk.read
  rw [find_of_resolve h]
  cases disk.node? place with
  | none => rfl
  | some node => cases node <;> rfl

theorem put_of_resolve (h : disk.resolve path = .ok place) (bytes : List UInt8) :
    disk.put path bytes = match disk.node? place with
      | some .folder => .error .isFolder
      | _ => .ok (OrderedMap.insert disk place.text (.file bytes)) := by
  unfold put
  rw [h]
  rfl

theorem delete_of_resolve (h : disk.resolve path = .ok place) :
    disk.delete path = match disk.node? place with
      | some (.file _) => .ok (OrderedMap.erase disk place.text)
      | some .folder => .error .isFolder
      | none => .error .missing := by
  unfold delete
  rw [h]
  rfl

/-! ## Changed files -/

theorem keepsFolders_insert {key : String} (hfree : OrderedMap.get? disk key ≠ some .folder)
    (node : Node) : KeepsFolders disk (OrderedMap.insert disk key node) := by
  intro other h
  rw [OrderedMap.get?_insert]
  split
  · next heq =>
    rw [heq] at h
    exact absurd h hfree
  · exact h

theorem keepsFolders_erase {key : String} (hfree : OrderedMap.get? disk key ≠ some .folder) :
    KeepsFolders disk (OrderedMap.erase disk key) := by
  intro other h
  rw [OrderedMap.get?_erase]
  split
  · next heq =>
    rw [heq] at h
    exact absurd h hfree
  · exact h

/-- Whether a file can be put somewhere does not depend on its bytes. -/
theorem exists_put_of_put {bytes : List UInt8} (h : disk.put path bytes = .ok after)
    (others : List UInt8) : ∃ later, disk.put path others = .ok later := by
  obtain ⟨place, hresolve, -⟩ := bind_eq_ok_iff.1 h
  rw [put_of_resolve hresolve] at h ⊢
  split at h
  · cases h
  · exact ⟨_, rfl⟩

/-- A file can be written under the path. -/
def Writable (disk : Disk) (path : Path) : Prop :=
  ∃ bytes, (disk.write path bytes).result = .ok ()

/-- Under a path that can be written, the folders can be made, and any bytes put there. -/
theorem Writable.made (h : disk.Writable path) :
    (disk.makeFolder path.parent).result = .ok () ∧
      ∀ bytes, ∃ after, (disk.makeFolder path.parent).disk.put path bytes = .ok after := by
  obtain ⟨bytes, h⟩ := h
  unfold write Change.andThen at h
  cases hmade : (disk.makeFolder path.parent).result with
  | error fault =>
    simp only [hmade] at h
    cases h
  | ok made =>
    simp only [hmade] at h
    cases hput : (disk.makeFolder path.parent).disk.put path bytes with
    | error fault =>
      rw [hput] at h
      cases h
    | ok after => exact ⟨rfl, exists_put_of_put hput⟩

/-- A name that a file can have: it is not empty and does not lead back. -/
def IsName (name : String) : Prop :=
  name ≠ "" ∧ name ≠ back

theorem node?_insert_inside (hname : IsName name) (hother : IsName other) (node : Node) :
    Disk.node? (OrderedMap.insert disk (place.inside name).text node) (place.inside other) =
      if other = name then some node else disk.node? (place.inside other) := by
  rw [node?_inside hother.2, node?_inside hother.2, OrderedMap.get?_insert]
  by_cases h : other = name
  · rw [if_pos h, if_pos (by rw [h])]
  · rw [if_neg h, if_neg fun htext => h (text_inside_injective hother.1 hname.1 htext)]

theorem node?_erase_inside (hname : IsName name) (hother : IsName other) :
    Disk.node? (OrderedMap.erase disk (place.inside name).text) (place.inside other) =
      if other = name then none else disk.node? (place.inside other) := by
  rw [node?_inside hother.2, node?_inside hother.2, OrderedMap.get?_erase]
  by_cases h : other = name
  · rw [if_pos h, if_pos (by rw [h])]
  · rw [if_neg h, if_neg fun htext => h (text_inside_injective hother.1 hname.1 htext)]

end Disk

end VisualNovel
