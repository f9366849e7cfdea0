import RandomC.Files.Tree
import RandomC.Proofs.Association

/-!
# Files in a tree

Writing a file changes that file and no other, and the directories stay.  So a path leads after it to where it led
before, the file is read as it was written, and of two texts that are written the second one counts.
-/

namespace RandomC.Files.FileTree

variable {tree : FileTree} {way : List String} {content : Content}

theorem put_eq : tree.put way content = ⟨assign way content tree.files⟩ := by
  unfold put assign file?
  split <;> rfl

/-- Only the file that is put into the tree changes. -/
theorem file?_put (other : List String) :
    (tree.put way content).file? other = if other = way then some content else tree.file? other := by
  simp [put_eq, file?, lookup_assign]

theorem file?_put_self : (tree.put way content).file? way = some content := by
  rw [file?_put, if_pos rfl]

theorem put_put (first second : Content) : (tree.put way first).put way second = tree.put way second := by
  simp only [put_eq, assign_assign]

/-- A file brings the directories on the way to it. -/
theorem hasDirectory_eq (other : List String) :
    tree.hasDirectory other = (other.isEmpty ||
      (tree.files.map Prod.fst).any fun file => other.isPrefixOf file && other.length < file.length) := by
  rw [hasDirectory, List.any_map]
  rfl

theorem hasDirectory_put (other : List String) :
    (tree.put way content).hasDirectory other =
      (tree.hasDirectory other || (other.isPrefixOf way && other.length < way.length)) := by
  rw [hasDirectory_eq, hasDirectory_eq, put_eq, keys_assign]
  split
  · next found =>
      obtain ⟨file, member, same⟩ := List.lookup_isSome_iff.mp found
      have present : way ∈ tree.files.map Prod.fst := eq_of_beq same ▸ List.mem_map_of_mem member
      cases above : other.isPrefixOf way && decide (other.length < way.length) with
      | false => simp
      | true =>
          have entered : (tree.files.map Prod.fst).any
              (fun file => other.isPrefixOf file && other.length < file.length) :=
            List.any_eq_true.mpr ⟨way, present, above⟩
          rw [entered]
          simp
  · rw [List.any_append, ← Bool.or_assoc]
    simp

/-- The end of a way is not a directory on it. -/
theorem hasDirectory_put_self : (tree.put way content).hasDirectory way = tree.hasDirectory way := by
  simp [hasDirectory_put]

/-- What could be entered before can be entered afterwards. -/
theorem step_put {here there : Position} {name : String} (steps : tree.step here name = .ok there) :
    (tree.put way content).step here name = .ok there := by
  cases here with
  | inside other =>
      unfold step at steps ⊢
      dsimp only at steps ⊢
      split at steps
      · next directory =>
          rw [hasDirectory_put, directory]
          exact steps
      · cases steps
  | outside => exact steps
  | device => exact steps

theorem steps_put {names : List String} {here there : Position} (steps : names.foldlM tree.step here = .ok there) :
    names.foldlM (tree.put way content).step here = .ok there := by
  induction names generalizing here with
  | nil => exact steps
  | cons name rest ih =>
      rw [List.foldlM_cons] at steps ⊢
      cases first : tree.step here name with
      | error failure =>
          rw [first] at steps
          cases steps
      | ok next =>
          rw [first] at steps
          rw [step_put first]
          exact ih steps

/-- A path leads to where it led before. -/
theorem locate_put {path : String} {position : Position} (leads : tree.locate path = .ok position) :
    (tree.put way content).locate path = .ok position := by
  unfold locate at leads ⊢
  split at leads
  · cases leads
  split at leads
  · cases leads
  split at leads
  · cases leads
  · next character notEmpty short =>
      rw [if_neg character, if_neg notEmpty, if_neg short]
      dsimp only at leads ⊢
      split at leads
      · next absolute => rwa [if_pos absolute]
      · next relative =>
          rw [if_neg relative]
          cases steps : ((pathParts path).filter (! ·.isEmpty)).foldlM tree.step (.inside []) with
          | error failure =>
              rw [steps] at leads
              cases leads
          | ok there =>
              rw [steps] at leads
              rwa [steps_put steps]

/-! ## Writing -/

/-- The path leads to the end of a way at which a file can be written. -/
structure Writable (tree : FileTree) (path : String) (way : List String) : Prop where
  leads : tree.locate path = .ok (.inside way)
  noDirectory : tree.hasDirectory way = false
  reachable : (tree.file? way).isSome ∨ tree.hasDirectory way.dropLast
  noSlash : path.endsWith "/" = false

variable {path : String}

theorem write_inside (leads : tree.locate path = .ok (.inside way)) (text : String) :
    tree.write path text =
      if tree.hasDirectory way then .error (.isDirectory path)
      else if (tree.file? way).isNone && ! tree.hasDirectory way.dropLast then
        .error (if (tree.file? way.dropLast).isSome then .notDirectory path else .notFound path)
      else if path.endsWith "/" then .error (.isDirectory path)
      else .ok (tree.put way (.text text)) := by
  unfold write
  rw [leads]
  simp only [bind, Except.bind]
  cases tree.hasDirectory way with
  | true => rfl
  | false =>
      cases (tree.file? way).isNone && ! tree.hasDirectory way.dropLast with
      | true => rfl
      | false => cases path.endsWith "/" <;> rfl

namespace Writable

variable (writable : tree.Writable path way)

include writable

theorem write (text : String) : tree.write path text = .ok (tree.put way (.text text)) := by
  rw [write_inside writable.leads, writable.noDirectory, writable.noSlash]
  rcases writable.reachable with file | directory
  · simp [Option.isNone_eq_false_iff.mpr file]
  · simp [directory]

/-- What has been written can be written again. -/
theorem put (content : Content) : (tree.put way content).Writable path way where
  leads := locate_put writable.leads
  noDirectory := by rw [hasDirectory_put_self, writable.noDirectory]
  reachable := .inl (by simp [file?_put_self])
  noSlash := writable.noSlash

/-- What has been written is read. -/
theorem read_put (content : Content) : (tree.put way content).read path = .ok content := by
  have found : (tree.put way content).lookUp path = .ok (some content) := by
    unfold lookUp
    rw [(writable.put content).leads]
    simp only [bind, Except.bind, file?_put_self, writable.noSlash]
    rfl
  rw [FileTree.read, found]
  rfl

end Writable

/-- A path that can be written leads into the tree or to the device that takes everything. -/
theorem write_cases {text : String} {written : FileTree} (writes : tree.write path text = .ok written) :
    (∃ way, tree.Writable path way ∧ written = tree.put way (.text text)) ∨
      (tree.locate path = .ok .device ∧ written = tree) := by
  cases leads : tree.locate path with
  | error failure =>
      rw [FileTree.write, leads] at writes
      cases writes
  | ok position =>
      cases position with
      | outside =>
          rw [FileTree.write, leads] at writes
          cases writes
      | device =>
          rw [FileTree.write, leads] at writes
          cases writes
          exact .inr ⟨rfl, rfl⟩
      | inside way =>
          rw [write_inside leads] at writes
          split at writes
          · cases writes
          split at writes
          · cases writes
          split at writes
          · cases writes
          · next noDirectory reachable noSlash =>
              cases writes
              refine .inl ⟨way, ⟨leads, by simpa using noDirectory, ?_, by simpa using noSlash⟩, rfl⟩
              cases found : tree.file? way with
              | some content => exact .inl rfl
              | none => exact .inr (by simpa [found] using reachable)

/-- The file to which a path leads has become a text, and the other files are what they were. -/
def Overwritten (tree after : FileTree) (path text : String) : Prop :=
  ∀ way, tree.locate path = .ok (.inside way) →
    after.file? way = some (.text text) ∧ ∀ other ≠ way, after.file? other = tree.file? other

theorem overwritten {text : String} {written : FileTree} (writes : tree.write path text = .ok written) :
    Overwritten tree written path text := by
  intro way leads
  rcases write_cases writes with ⟨target, writable, rfl⟩ | ⟨device, -⟩
  · have same := leads.symm.trans writable.leads
    cases same
    exact ⟨by simp [file?_put], fun other apart => by simp [file?_put, apart]⟩
  · rw [leads] at device
    cases device

/-- A path that has been written can be written again, as if it had not been. -/
theorem write_again {first : String} {middle : FileTree} (writes : tree.write path first = .ok middle)
    (second : String) : ∃ last, middle.write path second = .ok last ∧ tree.write path second = .ok last := by
  rcases write_cases writes with ⟨way, writable, rfl⟩ | ⟨device, rfl⟩
  · refine ⟨tree.put way (.text second), ?_, writable.write second⟩
    rw [(writable.put _).write, put_put]
  · refine ⟨middle, ?_, ?_⟩ <;> rw [FileTree.write, device] <;> rfl

end RandomC.Files.FileTree
