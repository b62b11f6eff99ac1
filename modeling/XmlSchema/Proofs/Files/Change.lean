import XmlSchema.Files.Change
import XmlSchema.Proofs.Files.Following
import XmlSchema.Proofs.Files.Tree
import XmlSchema.Proofs.Processing.FileName

/-!
# Writing files of a directory

A file is written into a directory under a name, which is one component of a
path.  Names that differ stand for different files; making directories and
writing files leave all other files alone.
-/

namespace XmlSchema

open Attempt

namespace FileTree

open FileName (Single)

variable {t later : FileTree} {places : List String → Prop} {directory name text : String}
  {names : List String}

/-- An empty component makes no difference before another one. -/
theorem pace_empty_bind (t : FileTree) (here : List String) (part : String) :
    (t.pace here "" >>= fun next => t.pace next part) = t.pace here part := by
  unfold pace
  cases hhere : t.root.get? here with
  | none => rfl
  | some n =>
      cases n with
      | file text => rfl
      | link target => rfl
      | directory es => simp [bind, Except.bind, hhere]

theorem foldlM_pace_append_empty (t : FileTree) (here parts : List String) (part : String) :
    (parts ++ [""] ++ [part]).foldlM t.pace here = (parts ++ [part]).foldlM t.pace here := by
  rw [List.foldlM_append, List.foldlM_append, List.foldlM_append, bind_assoc]
  simp only [foldlM_pace_singleton, pace_empty_bind]

/-- A name in a directory is one component after those of the directory. -/
theorem foldlM_split_join (h : Single name) (t : FileTree) (directory : String)
    (here : List String) :
    (split (join directory name)).foldlM t.pace here =
      (split directory ++ [name]).foldlM t.pace here := by
  rcases join_cases h.slashless directory with ⟨rfl, heq⟩ | ⟨before, rfl, heq⟩ | ⟨-, heq⟩
  · rw [heq, split_of_slashless h.slashless]
    exact (foldlM_pace_append_empty t here [] name).symm
  · rw [heq, split_append, split_of_slashless h.slashless, split_append_slash,
      foldlM_pace_append_empty]
  · rw [heq, split_append, split_of_slashless h.slashless]

/-- A path leads to a directory. -/
def Houses (t : FileTree) (directory : String) (names : List String) : Prop :=
  (split directory).foldlM t.pace (t.origin directory) = .ok names ∧
    ∃ es, t.root.get? names = some (.directory es)

/-- A name that a file in a directory can have. -/
structure Admits (directory name : String) : Prop where
  single : Single name
  ne_dot : name ≠ "."
  ne_up : name ≠ ".."
  size_le : name.utf8ByteSize ≤ maxName
  checked : checkPath (join directory name) = .ok ()

theorem Houses.alters (h : t.Houses directory names) (ht : t.Linkless)
    (ha : t.Alters places later) : later.Houses directory names := by
  obtain ⟨hpath, es, hes⟩ := h
  refine ⟨?_, ha.directory names es hes⟩
  unfold origin at hpath ⊢
  rw [ha.current_eq]
  exact foldlM_pace_alters ht ha hpath

theorem Houses.unique {other : List String} (h : t.Houses directory names)
    (h' : t.Houses directory other) : names = other :=
  Except.ok.inj (h.1.symm.trans h'.1)

theorem splitLast_append (h : Single name) (before : String) :
    splitLast (before ++ "/" ++ name) = (if before = "" then "/" else before, name) := by
  have hreverse : (split (before ++ "/" ++ name)).reverse = name :: (split before).reverse := by
    rw [split_append, split_of_slashless h.slashless, List.reverse_append]
    rfl
  have hempty : (split before).reverse.isEmpty = false := by
    rw [List.isEmpty_eq_false_iff, ne_eq, List.reverse_eq_nil_iff]
    exact split_ne_nil before
  have hroot : (split before).reverse = [""] ↔ before = "" := by
    constructor
    · intro hone
      rw [← intercalate_split before, ← List.reverse_reverse (split before), hone]
      rfl
    · rintro rfl
      rfl
  unfold splitLast
  rw [hreverse]
  dsimp only
  rw [hempty, if_neg Bool.false_ne_true, List.reverse_reverse, intercalate_split]
  simp only [hroot]

theorem origin_append_slash {before : String} (h : before ≠ "") (t : FileTree) :
    t.origin (before ++ "/") = t.origin before := by
  unfold origin
  rw [isAbsolute_append h]

/-- The directory of a name in a directory is that directory, spelled in
another way perhaps. -/
theorem splitLast_join (h : Single name) (t : FileTree) (directory : String) {names : List String}
    (hpath : (split (splitLast (join directory name)).1).foldlM t.pace
      (t.origin (splitLast (join directory name)).1) = .ok names) :
    (splitLast (join directory name)).2 = name ∧
      (split directory ++ [name]).foldlM t.pace (t.origin directory) = t.pace names name ∧
        ∀ es, t.root.get? names = some (.directory es) → t.Houses directory names := by
  -- the rest of a path is followed from where its beginning leads
  have hfollow : ∀ {parts : List String} {here : List String} (todo : List String),
      parts.foldlM t.pace here = .ok names →
      (parts ++ todo).foldlM t.pace here = todo.foldlM t.pace names := by
    intro parts here todo hparts
    rw [List.foldlM_append, hparts]
    rfl
  have hstay : ∀ es, t.root.get? names = some (.directory es) → t.pace names "" = .ok names :=
    fun es hes => pace_eq_ok_iff.2 ⟨es, hes, .inl ⟨.inl rfl, rfl⟩⟩
  rcases join_cases h.slashless directory with ⟨rfl, heq⟩ | ⟨before, rfl, heq⟩ | ⟨hne, heq⟩
  · -- a bare name is looked for in `.`, while the directory is given as the empty path
    have hlast : splitLast name = (".", name) := by
      unfold splitLast
      rw [split_of_slashless h.slashless]
      rfl
    rw [heq, hlast] at hpath ⊢
    have hcurrent : names = t.current := by
      have hdot : t.pace t.current "." = .ok names := by
        have hsplit : split "." = ["."] := split_of_slashless (by decide)
        have horigin : t.origin "." = t.current := if_neg (by decide)
        dsimp only at hpath
        rwa [hsplit, horigin, foldlM_pace_singleton] at hpath
      obtain ⟨-, -, ⟨-, heq⟩ | ⟨hup, -⟩ | ⟨⟨-, hne, -⟩, -⟩⟩ := pace_eq_ok_iff.1 hdot
      · exact heq
      · exact absurd hup (by decide)
      · exact absurd rfl hne
    subst hcurrent
    refine ⟨rfl, ?_, fun es hes => ⟨?_, es, hes⟩⟩
    · exact (foldlM_pace_append_empty t t.current [] name).trans (foldlM_pace_singleton t _ name)
    · exact (foldlM_pace_singleton t t.current "").trans (hstay es hes)
  · rw [heq, splitLast_append h] at hpath ⊢
    dsimp only at hpath ⊢
    -- the root keeps the separator that it ends in
    by_cases hempty : before = ""
    · subst hempty
      rw [if_pos rfl] at hpath
      exact ⟨rfl, (hfollow [name] hpath).trans (foldlM_pace_singleton t names name),
        fun es hes => ⟨hpath, es, hes⟩⟩
    · rw [if_neg hempty] at hpath
      rw [split_append_slash, origin_append_slash hempty, foldlM_pace_append_empty]
      refine ⟨rfl, (hfollow [name] hpath).trans (foldlM_pace_singleton t names name),
        fun es hes => ⟨?_, es, hes⟩⟩
      rw [split_append_slash, origin_append_slash hempty, hfollow [""] hpath,
        foldlM_pace_singleton, hstay es hes]
  · rw [heq, splitLast_append h, if_neg hne] at hpath ⊢
    exact ⟨rfl, (hfollow [name] hpath).trans (foldlM_pace_singleton t names name),
      fun es hes => ⟨hpath, es, hes⟩⟩

theorem canonical_eq_ok_iff (ht : t.Linkless) {path : String} :
    t.canonical path = .ok names ↔
      checkPath path = .ok () ∧ (split path).foldlM t.pace (t.origin path) = .ok names := by
  unfold canonical
  rw [← walk_eq_foldlM ht maxLinks]
  exact ⟨fun h => have ⟨_, hcheck, hwalk⟩ := bind_eq_ok_iff.1 h; ⟨hcheck, hwalk⟩,
    fun h => bind_eq_ok_iff.2 ⟨(), h⟩⟩

theorem read_eq_ok_iff {path : String} :
    t.read path = .ok text ↔
      ∃ names, t.canonical path = .ok names ∧ t.root.get? names = some (.file text) := by
  unfold read node
  cases t.canonical path with
  | error fault => simp
  | ok names =>
      dsimp only
      cases hn : t.root.get? names with
      | none => simp [hn]
      | some n => cases n <;> simp [hn]

theorem join_ne_empty (h : Single name) (directory : String) : join directory name ≠ "" := by
  have hlonger : ∀ before : String, before ++ name ≠ "" := by
    intro before hempty
    have hlength := congrArg String.length hempty
    rw [String.length_append] at hlength
    have hname : name.length ≠ 0 := fun hzero => h.ne_empty (by simpa using hzero)
    have hzero : "".length = 0 := rfl
    omega
  rcases join_cases h.slashless directory with ⟨-, heq⟩ | ⟨before, -, heq⟩ | ⟨-, heq⟩
  · rw [heq]
    exact h.ne_empty
  · rw [heq]
    exact hlonger _
  · rw [heq]
    exact hlonger _

theorem canonical_notFound (ht : t.Linkless) {path : String} (hne : path ≠ "")
    (h : t.canonical path = .error .notFound) :
    checkPath path = .ok () ∧
      (split path).foldlM t.pace (t.origin path) = .error .notFound := by
  unfold canonical at h
  rw [walk_eq_foldlM ht maxLinks] at h
  cases hcheck : checkPath path with
  | ok u =>
      rw [hcheck] at h
      exact ⟨rfl, h⟩
  | error fault =>
      rw [hcheck] at h
      cases h
      unfold checkPath at hcheck
      split at hcheck
      · cases hcheck
      · split at hcheck
        · rename_i hempty
          exact absurd (String.isEmpty_iff.1 hempty) hne
        · split at hcheck <;> cases hcheck

/-- A component that leads to a file is the name of the file. -/
theorem pace_file {here : List String} {old : String}
    (h : t.pace here name = .ok names) (hfile : t.root.get? names = some (.file old)) :
    (∃ es, t.root.get? here = some (.directory es)) ∧ name ≠ "." ∧ name ≠ ".." ∧
      name.utf8ByteSize ≤ maxName ∧ names = here ++ [name] := by
  obtain ⟨es, hes, ⟨-, rfl⟩ | ⟨-, rfl⟩ | ⟨⟨-, hdot, hup, hsize⟩, -, rfl⟩⟩ := pace_eq_ok_iff.1 h
  · cases hes.symm.trans hfile
  · obtain ⟨es', hes'⟩ := exists_directory_dropLast hes
    cases hes'.symm.trans hfile
  · exact ⟨⟨es, hes⟩, hdot, hup, hsize, rfl⟩

/-- A component that leads nowhere is a name that is free. -/
theorem pace_notFound {here : List String} (h : t.pace here name = .error .notFound)
    (hhere : (t.root.get? here).isSome) :
    (∃ es, t.root.get? here = some (.directory es)) ∧ name ≠ "." ∧ name ≠ ".." ∧
      name.utf8ByteSize ≤ maxName ∧ t.root.get? (here ++ [name]) = none := by
  unfold pace at h
  split at h
  · rename_i es hes
    split at h
    · cases h
    · rename_i hdot
      split at h
      · cases h
      · rename_i hup
        split at h
        · cases h
        · rename_i hsize
          split at h
          · cases h
          · rename_i hnone
            simp only [Bool.or_eq_true, decide_eq_true_eq, not_or] at hdot
            refine ⟨⟨es, hes⟩, hdot.2, hup, Nat.le_of_not_lt hsize, ?_⟩
            rw [get?_append_singleton hes]
            exact Option.not_isSome_iff_eq_none.1 hnone
  · cases h
  · rename_i hnone
    rw [hnone] at hhere
    cases hhere

/-- A file that is written under a name in a directory is put there. -/
theorem write_ok (ht : t.Linkless) (hname : Single name)
    (h : t.write (join directory name) text = .ok later) :
    ∃ names, t.Houses directory names ∧ Admits directory name ∧
      (t.root.get? (names ++ [name]) = none ∨
        ∃ old, t.root.get? (names ++ [name]) = some (.file old)) ∧
      later = { t with root := t.root.put (names ++ [name]) (.file text) } := by
  unfold write at h
  split at h
  · rename_i names hcanonical
    split at h
    · -- the name leads to a file, which is written over
      rename_i old hfile
      cases h
      obtain ⟨hchecked, hpath⟩ := (canonical_eq_ok_iff ht).1 hcanonical
      rw [origin_join hname.slashless, foldlM_split_join hname] at hpath
      obtain ⟨here, hhere, hlast⟩ := foldlM_pace_append.1 hpath
      rw [foldlM_pace_singleton] at hlast
      obtain ⟨hes, hdot, hup, hsize, rfl⟩ := pace_file hlast hfile
      exact ⟨here, ⟨hhere, hes⟩, ⟨hname, hdot, hup, hsize, hchecked⟩, .inr ⟨old, hfile⟩, rfl⟩
    · cases h
  · rename_i hcanonical
    split at h
    · -- the name is free, and the directory is found by itself
      rename_i names hdirectory
      cases h
      obtain ⟨-, hpath⟩ := (canonical_eq_ok_iff ht).1 hdirectory
      have hsome := isSome_of_foldlM_pace (split_ne_nil _) hpath
      obtain ⟨hlast, hfollow, hhouses⟩ := splitLast_join hname t directory hpath
      obtain ⟨hchecked, hnotFound⟩ :=
        canonical_notFound ht (join_ne_empty hname directory) hcanonical
      rw [origin_join hname.slashless, foldlM_split_join hname, hfollow] at hnotFound
      obtain ⟨⟨es, hes⟩, hdot, hup, hsize, hfree⟩ := pace_notFound hnotFound hsome
      refine ⟨names, hhouses es hes, ⟨hname, hdot, hup, hsize, hchecked⟩, .inl hfree, ?_⟩
      rw [hlast]
    · cases h
  · cases h

/-- Writing a file under a name changes no other file. -/
theorem write_alters (hhouses : t.Houses directory names)
    (hold : t.root.get? (names ++ [name]) = none ∨
      ∃ old, t.root.get? (names ++ [name]) = some (.file old)) :
    t.Alters (· = names ++ [name])
      { t with root := t.root.put (names ++ [name]) (.file text) } :=
  .put hhouses.2 (hold.imp_right fun h => ⟨rfl, h, text, rfl⟩) (.inr ⟨text, rfl⟩)

/-- A file that stands under a name in a directory is read from there. -/
theorem read_join (ht : t.Linkless) (hhouses : t.Houses directory names)
    (hadmits : Admits directory name)
    (hfile : t.root.get? (names ++ [name]) = some (.file text)) :
    t.read (join directory name) = .ok text := by
  obtain ⟨hpath, es, hes⟩ := hhouses
  have hpace : t.pace names name = .ok (names ++ [name]) := by
    have hsome : (es.lookup name).isSome := by
      rw [← get?_append_singleton hes, hfile]
      rfl
    exact pace_eq_ok_iff.2 ⟨es, hes, .inr (.inr
      ⟨⟨hadmits.single.ne_empty, hadmits.ne_dot, hadmits.ne_up, hadmits.size_le⟩, hsome, rfl⟩)⟩
  have hcanonical : t.canonical (join directory name) = .ok (names ++ [name]) := by
    refine (canonical_eq_ok_iff ht).2 ⟨hadmits.checked, ?_⟩
    rw [origin_join hadmits.single.slashless, foldlM_split_join hadmits.single]
    exact foldlM_pace_append.2 ⟨names, hpath, (foldlM_pace_singleton t names name).trans hpace⟩
  exact read_eq_ok_iff.2 ⟨_, hcanonical, hfile⟩

section Directories

/-- Making a directory changes no file. -/
theorem makeDirectory_alters {path : String} (h : t.makeDirectory path = .ok later) :
    t.Alters (fun _ => False) later := by
  obtain ⟨-, -, h⟩ := bind_eq_ok_iff.1 h
  split at h
  · cases h
  · obtain ⟨here, -, h⟩ := bind_eq_ok_iff.1 h
    split at h
    · rename_i es hes
      split at h
      · cases h
      · rename_i hfree
        split at h
        · cases h
        · cases h
          refine .put ⟨es, hes⟩ (.inl ?_) (.inl rfl)
          rw [get?_append_singleton hes]
          simp only [Bool.or_eq_true, not_or] at hfree
          exact Option.not_isSome_iff_eq_none.1 hfree.2
    · cases h

theorem ensureDirectory_alters (t : FileTree) (path : String) :
    t.Alters (fun _ => False) (t.ensureDirectory path).2 := by
  unfold ensureDirectory
  split
  · rename_i later h
    exact makeDirectory_alters h
  · exact .refl _ t

theorem makeBelow_alters (t : FileTree) (path : String) (above : List String) :
    t.Alters (fun _ => False) (t.makeBelow path above).2 := by
  induction above generalizing path t with
  | nil =>
      unfold makeBelow
      split
      · exact .refl _ t
      · exact ensureDirectory_alters t path
  | cons next rest ih =>
      unfold makeBelow
      split
      · have hbelow := ih t next
        split
        · rename_i later heq
          rw [heq] at hbelow
          exact hbelow.trans (ensureDirectory_alters later path)
        · exact hbelow
      · exact ensureDirectory_alters t path

/-- Making directories changes no file, even if it fails in the end. -/
theorem makeDirectories_alters (t : FileTree) (path : String) :
    t.Alters (fun _ => False) (t.makeDirectories path).2 :=
  makeBelow_alters t path _

end Directories

end FileTree

end XmlSchema
