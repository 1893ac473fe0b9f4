import Mathlib.Data.List.Basic
import Runbook.Files.Disk

/-!
# What was written is read

* `read_of_write` — what was put in the file at a path is read there.
* `takes_of_write` — and other texts can be put there afterwards: the folders stay, and the file does not become
  one.
-/

namespace Runbook.Disk

variable {d d' made : Disk} {p q r : Location} {names : List String} {path : FilePath} {text : String}
  {bytes : ByteArray}

/-- Something comes of two steps exactly if something comes of both. -/
theorem bind_eq_ok {ε α β : Type} {x : Except ε α} {f : α → Except ε β} {b : β} :
    (x >>= f) = .ok b ↔ ∃ a, x = .ok a ∧ f a = .ok b := by
  cases x with
  | error e => simp [bind, Except.bind]
  | ok a => simp [bind, Except.bind]

/-! ## Files -/

theorem lookup_map_of_isSome {files : List (Location × ByteArray)} (h : (files.lookup p).isSome) :
    (files.map fun entry => if entry.1 == p then (p, bytes) else entry).lookup p = some bytes := by
  induction files with
  | nil => simp at h
  | cons entry rest ih =>
    obtain ⟨q, old⟩ := entry
    rw [List.map_cons]
    by_cases hq : q = p
    · simp [hq]
    · have hne : (p == q) = false := beq_eq_false_iff_ne.2 (Ne.symm hq)
      rw [List.lookup_cons, hne] at h
      simpa [hq, List.lookup_cons, hne] using ih h

/-- The file that was given its bytes has them. -/
theorem file?_setFile (d : Disk) (p : Location) (bytes : ByteArray) : (d.setFile p bytes).file? p = some bytes := by
  unfold setFile
  split
  · rename_i h
    exact lookup_map_of_isSome h
  · rename_i h
    have hnone : d.files.lookup p = none := by rwa [Option.not_isSome_iff_eq_none] at h
    simp [file?, List.lookup_append, hnone]

/-! ## Folders -/

/-- A file that is there is among the files. -/
theorem exists_of_file? (h : (d.file? p).isSome) : ∃ bytes, (p, bytes) ∈ d.files := by
  obtain ⟨bytes, hbytes⟩ := Option.isSome_iff_exists.1 h
  obtain ⟨before, after, hfiles, -⟩ := List.lookup_eq_some_iff.1 hbytes
  exact ⟨bytes, hfiles ▸ List.mem_append_right before List.mem_cons_self⟩

/-- Which folders files are in hangs on their places alone. -/
theorem any_setFile (d : Disk) (p : Location) (bytes : ByteArray) (inside : Location → Bool) :
    (d.setFile p bytes).files.any (fun (q, _) => inside q) =
      (d.files.any (fun (q, _) => inside q) || inside p) := by
  unfold setFile
  split
  · rename_i h
    have hsame : ∀ entry : Location × ByteArray,
        inside (if entry.1 == p then (p, bytes) else entry).1 = inside entry.1 := by
      intro entry
      by_cases hentry : entry.1 = p <;> simp [hentry]
    have hmap : (d.files.map fun entry => if entry.1 == p then (p, bytes) else entry).any (fun (q, _) => inside q) =
        d.files.any (fun (q, _) => inside q) := by
      rw [List.any_map]
      exact congrArg d.files.any (funext hsame)
    rw [hmap]
    cases hp : inside p with
    | false => simp
    | true =>
      obtain ⟨old, hmem⟩ := exists_of_file? h
      simpa using ⟨p, ⟨old, hmem⟩, hp⟩
  · simp

/-- Folders stay, and those around the file are there. -/
theorem isFolder_setFile (d : Disk) (p q : Location) (bytes : ByteArray) :
    (d.setFile p bytes).isFolder q = (d.isFolder q || (q.isPrefixOf p && q != p)) := by
  have hfolders : (d.setFile p bytes).folders = d.folders := by
    unfold setFile
    split <;> rfl
  simp only [isFolder, any_setFile d p bytes fun r => q.isPrefixOf r && q != r, hfolders, Bool.or_assoc]

/-- Are all folders of a disk on the other one, too? -/
def FoldersIn (d d' : Disk) : Prop :=
  ∀ q, d.isFolder q = true → d'.isFolder q = true

theorem foldersIn_setFile (d : Disk) (p : Location) (bytes : ByteArray) : FoldersIn d (d.setFile p bytes) := by
  intro q hq
  rw [isFolder_setFile, hq, Bool.true_or]

/-- A way along folders stays one. -/
theorem follow_of_foldersIn (hfolders : FoldersIn d d') (h : d.follow p names = .ok q) :
    d'.follow p names = .ok q := by
  induction names generalizing p with
  | nil => exact h
  | cons name rest ih =>
    rw [follow] at h
    split at h
    · rename_i hp
      rw [follow, if_pos (hfolders p hp)]
      obtain ⟨next, hnext, h⟩ := bind_eq_ok.1 h
      exact bind_eq_ok.2 ⟨next, hnext, ih h⟩
    · split at h <;> cases h

theorem foldersIn_folder (d : Disk) (p : Location) : FoldersIn d { d with folders := p :: d.folders } := by
  intro q hq
  simp only [isFolder, Bool.or_eq_true, List.contains_cons] at hq ⊢
  tauto

theorem isFolder_folder (d : Disk) (p : Location) :
    ({ d with folders := p :: d.folders } : Disk).isFolder p = true := by
  simp [isFolder]

/-- Making folders takes none away, and folders that were made need not be made again. -/
theorem makeFolders_again (h : d.makeFolders p names = .ok made) :
    FoldersIn d made ∧ ∀ d', FoldersIn made d' → d'.makeFolders p names = .ok d' := by
  induction names generalizing d p with
  | nil =>
    obtain rfl : d = made := Except.ok.inj h
    exact ⟨fun _ hq => hq, fun d' _ => rfl⟩
  | cons name rest ih =>
    obtain ⟨next, hnext, h⟩ := bind_eq_ok.1 h
    split at h
    · rename_i hfolder
      obtain ⟨hin, hagain⟩ := ih h
      refine ⟨hin, fun d' hin' => bind_eq_ok.2 ⟨next, hnext, ?_⟩⟩
      rw [if_pos (hin' _ (hin _ hfolder))]
      exact hagain d' hin'
    · split at h
      · cases h
      · obtain ⟨hin, hagain⟩ := ih h
        refine ⟨fun q hq => hin q (foldersIn_folder d next q hq), fun d' hin' => bind_eq_ok.2 ⟨next, hnext, ?_⟩⟩
        rw [if_pos (hin' _ (hin _ (isFolder_folder d next)))]
        exact hagain d' hin'

/-! ## Writing and reading -/

theorem write_eq_ok_iff : d.write path text = .ok d' ↔
    checkPath path = .ok () ∧ ∃ made p, d.makeFolders (start path) path.folder.parts = .ok made ∧
      made.place path = .ok p ∧ made.isFolder p = false ∧ d' = made.setFile p text.toUTF8 := by
  constructor
  · intro h
    obtain ⟨⟨⟩, hcheck, h⟩ := bind_eq_ok.1 h
    obtain ⟨made, hmade, h⟩ := bind_eq_ok.1 h
    obtain ⟨p, hplace, h⟩ := bind_eq_ok.1 h
    split at h
    · cases h
    · rename_i hfolder
      exact ⟨hcheck, made, p, hmade, hplace, by simpa using hfolder, (Except.ok.inj h).symm⟩
  · rintro ⟨hcheck, made, p, hmade, hplace, hfolder, rfl⟩
    exact bind_eq_ok.2 ⟨(), hcheck, bind_eq_ok.2 ⟨made, hmade, bind_eq_ok.2 ⟨p, hplace, by rw [hfolder]; rfl⟩⟩⟩

/-- Can a text be put in the file at a path? -/
def Takes (d : Disk) (path : FilePath) : Prop :=
  ∃ d', d.write path "" = .ok d'

/-- If one text can be put in a file, every text can. -/
theorem Takes.exists_write (h : d.Takes path) (text : String) : ∃ d', d.write path text = .ok d' := by
  obtain ⟨_, hwrite⟩ := h
  obtain ⟨hcheck, made, p, hmade, hplace, hfolder, -⟩ := write_eq_ok_iff.1 hwrite
  exact ⟨_, write_eq_ok_iff.2 ⟨hcheck, made, p, hmade, hplace, hfolder, rfl⟩⟩

theorem read_of_write (h : d.write path text = .ok d') : d'.read path = .ok text.toUTF8 := by
  obtain ⟨hcheck, made, p, -, hplace, -, rfl⟩ := write_eq_ok_iff.1 h
  have hplace' : (made.setFile p text.toUTF8).place path = .ok p :=
    follow_of_foldersIn (foldersIn_setFile made p _) hplace
  refine bind_eq_ok.2 ⟨(), hcheck, bind_eq_ok.2 ⟨p, hplace', ?_⟩⟩
  rw [file?_setFile]

theorem takes_of_write (h : d.write path text = .ok d') : d'.Takes path := by
  obtain ⟨hcheck, made, p, hmade, hplace, hfolder, rfl⟩ := write_eq_ok_iff.1 h
  have hin := foldersIn_setFile made p text.toUTF8
  refine ⟨_, write_eq_ok_iff.2
    ⟨hcheck, _, p, (makeFolders_again hmade).2 _ hin, follow_of_foldersIn hin hplace, ?_, rfl⟩⟩
  simp [isFolder_setFile, hfolder]

end Runbook.Disk
