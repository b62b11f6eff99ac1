import XmlSchema.Files.Tree
import XmlSchema.Proofs.Attempt
import XmlSchema.Proofs.Files.Tree
import XmlSchema.Proofs.Locator.Normal

/-!
# Paths of entries

A path is split into components and put together again from them.  The path of
a name in a directory has one component more than that of the directory, however
the directory is spelled.

A path is followed in two parts: the rest of it from where its beginning leads,
with the links that may still be followed.  So the path of an entry in a
directory leads to the entry, if that is no link itself and the path is not too
long, whatever links the path of the directory passes through.
-/

namespace XmlSchema

open Attempt

/-- Text around a separator is split there. -/
theorem Text.splitOnChar_append (sep : Char) (before after : List Char) :
    splitOnChar sep (before ++ sep :: after) = splitOnChar sep before ++ splitOnChar sep after := by
  induction before with
  | nil =>
      show splitOnChar sep (sep :: after) = [] :: splitOnChar sep after
      rw [splitOnChar, if_pos rfl]
  | cons c rest ih =>
      rw [List.cons_append, splitOnChar, splitOnChar, ih]
      split
      · rfl
      · cases hrest : splitOnChar sep rest with
        | nil => exact absurd (splitOnChar_eq sep rest ▸ hrest) (List.splitOn_ne_nil _ _)
        | cons w ws => rfl

namespace FileTree

variable {t : FileTree} {directory name : String}

theorem split_of_slashless (h : '/' ∉ name.toList) : split name = [name] := by
  unfold split
  rw [Text.splitOnChar_eq, List.splitOn_eq_singleton h, List.map_singleton, String.ofList_toList]

theorem split_append (before after : String) :
    split (before ++ "/" ++ after) = split before ++ split after := by
  unfold split
  have htoList : (before ++ "/" ++ after).toList = before.toList ++ '/' :: after.toList := by
    simp [String.toList_append]
  rw [htoList, Text.splitOnChar_append, List.map_append]

theorem split_append_slash (before : String) : split (before ++ "/") = split before ++ [""] := by
  have happend := split_append before ""
  rwa [String.append_empty] at happend

theorem split_ne_nil (path : String) : split path ≠ [] := by
  unfold split
  rw [Text.splitOnChar_eq]
  exact fun h => List.splitOn_ne_nil _ _ (List.map_eq_nil_iff.1 h)

/-- A path is put together again from its components. -/
theorem intercalate_split (path : String) : "/".intercalate (split path) = path := by
  apply String.toList_injective
  unfold split
  rw [String.toList_intercalate, List.map_map]
  have hid : String.toList ∘ String.ofList = id := funext fun _ => String.toList_ofList
  rw [hid, List.map_id, Text.splitOnChar_eq]
  exact List.intercalate_splitOn '/'

theorem isAbsolute_of_slashless (h : '/' ∉ name.toList) : Path.isAbsolute name = false := by
  unfold Path.isAbsolute
  cases hchars : name.toList with
  | nil => rfl
  | cons c rest =>
      have hc : c ≠ '/' := by
        rintro rfl
        exact h (hchars ▸ List.mem_cons_self)
      simp [hc]

/-- How the path of a name in a directory is spelled. -/
theorem join_cases (h : '/' ∉ name.toList) (directory : String) :
    directory = "" ∧ join directory name = name ∨
      (∃ before, directory = before ++ "/" ∧ join directory name = before ++ "/" ++ name) ∨
      directory ≠ "" ∧ join directory name = directory ++ "/" ++ name := by
  unfold join
  rw [isAbsolute_of_slashless h, Bool.false_or]
  split
  · rename_i hempty
    exact .inl ⟨String.isEmpty_iff.1 hempty, rfl⟩
  · rename_i hempty
    split
    · rename_i hslash
      obtain ⟨cs, hcs⟩ := List.getLast?_eq_some_iff.1 hslash
      have hdirectory : directory = String.ofList cs ++ "/" := by
        apply String.toList_injective
        rw [hcs, String.toList_append, String.toList_ofList]
        rfl
      exact .inr (.inl ⟨String.ofList cs, hdirectory, by rw [← hdirectory]⟩)
    · exact .inr (.inr ⟨fun h => hempty (String.isEmpty_iff.2 h), rfl⟩)

theorem isAbsolute_append {before : String} (h : before ≠ "") (after : String) :
    Path.isAbsolute (before ++ after) = Path.isAbsolute before := by
  unfold Path.isAbsolute
  obtain ⟨c, cs, hcs⟩ :=
    List.exists_cons_of_ne_nil fun hnil => h (String.toList_eq_nil_iff.1 hnil)
  rw [String.toList_append, hcs]
  rfl

theorem isAbsolute_join (h : '/' ∉ name.toList) (directory : String) :
    Path.isAbsolute (join directory name) = Path.isAbsolute directory := by
  rcases join_cases h directory with ⟨rfl, heq⟩ | ⟨before, rfl, heq⟩ | ⟨hne, heq⟩
  · rw [heq, isAbsolute_of_slashless h]
    rfl
  · rw [heq]
    refine isAbsolute_append (fun hempty => ?_) name
    have hlength := congrArg String.length hempty
    rw [String.length_append] at hlength
    exact absurd hlength (by simp)
  · rw [heq, String.append_assoc]
    exact isAbsolute_append hne _

theorem origin_join (h : '/' ∉ name.toList) (t : FileTree) (directory : String) :
    t.origin (join directory name) = t.origin directory := by
  unfold origin
  rw [isAbsolute_join h]

theorem components_join (h : '/' ∉ name.toList) (hempty : name ≠ "") (hdot : name ≠ ".")
    (directory : String) :
    Path.components (join directory name) = Path.components directory ++ [name] := by
  have hname : (split name).filter (fun part => part != "" && part != ".") = [name] := by
    rw [split_of_slashless h]
    exact List.filter_cons_of_pos (by simp [hempty, hdot])
  show (split _).filter _ = (split _).filter _ ++ [name]
  rcases join_cases h directory with ⟨rfl, heq⟩ | ⟨before, rfl, heq⟩ | ⟨-, heq⟩
  · rw [heq, hname]
    rfl
  · rw [heq, split_append, split_append_slash, List.filter_append, List.filter_append, hname]
    simp
  · rw [heq, split_append, List.filter_append, hname]

/-- A name that an entry of a directory can have. -/
structure EntryName (name : String) : Prop where
  ne_empty : name ≠ ""
  ne_dot : name ≠ "."
  ne_up : name ≠ ".."
  slashless : '/' ∉ name.toList
  nulless : '\x00' ∉ name.toList
  size_le : name.utf8ByteSize ≤ maxName

instance (name : String) : Decidable (EntryName name) :=
  decidable_of_iff (name ≠ "" ∧ name ≠ "." ∧ name ≠ ".." ∧ '/' ∉ name.toList ∧
    '\x00' ∉ name.toList ∧ name.utf8ByteSize ≤ maxName)
    ⟨fun ⟨h₁, h₂, h₃, h₄, h₅, h₆⟩ => ⟨h₁, h₂, h₃, h₄, h₅, h₆⟩,
      fun ⟨h₁, h₂, h₃, h₄, h₅, h₆⟩ => ⟨h₁, h₂, h₃, h₄, h₅, h₆⟩⟩

/-- Entries that a directory can have: no two of them have one name. -/
structure Listing (es : List (String × FileNode)) : Prop where
  named : ∀ e ∈ es, EntryName e.1
  distinct : (es.map Prod.fst).Nodup

end FileTree

namespace FileNode

open FileTree (Listing)

variable {es : List (String × FileNode)}

/-- The directories at a node and below it have entries as directories can have. -/
def Regular (n : FileNode) : Prop :=
  ∀ names es, n.get? names = some (.directory es) → Listing es

theorem regular_file (text : String) : (file text).Regular := by
  rintro (- | ⟨name, rest⟩) es h <;> cases h

theorem regular_link (target : String) : (link target).Regular := by
  rintro (- | ⟨name, rest⟩) es h <;> cases h

theorem regular_directory (hes : Listing es) (h : ∀ e ∈ es, e.2.Regular) :
    (directory es).Regular := by
  rintro (- | ⟨name, rest⟩) inner hinner
  · cases hinner
    exact hes
  · obtain ⟨n, hn, hbelow⟩ := Option.bind_eq_some_iff.1 hinner
    obtain ⟨front, back, rfl, -⟩ := List.lookup_eq_some_iff.1 hn
    exact h (name, n) (by simp) rest inner hbelow

end FileNode

namespace FileTree

variable {t : FileTree} {here : List String} {es : List (String × FileNode)} {n : FileNode}
  {name path : String} {links : Nat}
  {follow : List String → List String → Except FileFault (List String)}

theorem Listing.lookup_eq_some_iff (h : Listing es) : es.lookup name = some n ↔ (name, n) ∈ es := by
  constructor
  · intro hn
    obtain ⟨front, back, rfl, -⟩ := List.lookup_eq_some_iff.1 hn
    simp
  · intro hn
    obtain ⟨front, back, rfl⟩ := List.append_of_mem hn
    have hdistinct := h.distinct
    rw [List.map_append, List.nodup_append] at hdistinct
    refine List.lookup_eq_some_iff.2 ⟨front, back, rfl, fun e he => ?_⟩
    exact bne_iff_ne.2 (Ne.symm (hdistinct.2.2 e.1 (List.mem_map_of_mem he) name (by simp)))

/-- The beginning of a path leads nowhere, whatever comes behind it, or to a
place from which the rest of the path is followed. -/
def Divides (t : FileTree) (follow : List String → List String → Except FileFault (List String))
    (here parts : List String) : Prop :=
  (∃ fault, ∀ more, follow here (parts ++ more) = .error fault) ∨
    ∃ left middle, ∀ more, follow here (parts ++ more) = t.walk left middle more

/-- If this is so of what a link leads to, it is so of a path that may begin with
other components. -/
theorem divides_walkWith (links : Nat) (hwalk : t.walk links = walkWith follow t)
    (hfollow : ∀ here parts, t.Divides follow here parts) (here parts : List String) :
    t.Divides (walkWith follow t) here parts := by
  induction parts generalizing here with
  | nil => exact .inr ⟨links, here, fun more => by rw [hwalk, List.nil_append]⟩
  | cons part rest ih =>
      cases hhere : t.root.get? here with
      | none => exact .inl ⟨.notFound, fun more => by rw [List.cons_append, walkWith, hhere]⟩
      | some n =>
          cases n with
          | file text =>
              exact .inl ⟨.notDirectory, fun more => by rw [List.cons_append, walkWith, hhere]⟩
          | link target =>
              exact .inl ⟨.notDirectory, fun more => by rw [List.cons_append, walkWith, hhere]⟩
          | directory es =>
              unfold Divides
              simp only [List.cons_append, walkWith, hhere]
              split
              · exact ih here
              · split
                · exact ih here.dropLast
                · split
                  · exact .inl ⟨.nameTooLong, fun _ => rfl⟩
                  · cases es.lookup part with
                    | none => exact .inl ⟨.notFound, fun _ => rfl⟩
                    | some m =>
                        cases m with
                        | file text => exact ih (here ++ [part])
                        | directory inner => exact ih (here ++ [part])
                        | link target =>
                            -- the rest of the path waits behind that of the link
                            simp only [← List.append_assoc]
                            exact hfollow _ _

theorem divides_walk (t : FileTree) (links : Nat) (here parts : List String) :
    t.Divides (t.walk links) here parts := by
  induction links generalizing here parts with
  | zero =>
      exact divides_walkWith 0 rfl (fun _ _ => .inl ⟨.tooManyLinks, fun _ => rfl⟩) here parts
  | succ links ih => exact divides_walkWith (links + 1) rfl ih here parts

theorem walk_nil (t : FileTree) (links : Nat) (here : List String) :
    t.walk links here [] = .ok here := by
  cases links <;> rfl

/-- The rest of a path is followed from where its beginning leads. -/
theorem exists_walk_of_append {parts more middle : List String}
    (h : t.walk links here (parts ++ more) = .ok middle) :
    ∃ left place, t.walk links here parts = .ok place ∧ t.walk left place more = .ok middle ∧
      ∀ rest, t.walk links here (parts ++ rest) = t.walk left place rest := by
  obtain ⟨fault, hfault⟩ | ⟨left, place, hplace⟩ := divides_walk t links here parts
  · cases h.symm.trans (hfault more)
  · refine ⟨left, place, ?_, (hplace more).symm.trans h, hplace⟩
    have hall := hplace []
    rwa [List.append_nil, walk_nil] at hall

/-- An entry that is no link is found under its name. -/
theorem walk_entry (hes : t.root.get? here = some (.directory es)) (hname : EntryName name)
    (hn : es.lookup name = some n) (hlink : n.isLink = false) (links : Nat) :
    t.walk links here [name] = .ok (here ++ [name]) := by
  have hwalkWith : ∀ follow, walkWith follow t here [name] = .ok (here ++ [name]) := by
    intro follow
    have hdot : ¬ (decide (name = "") || decide (name = ".")) = true := by
      simp [hname.ne_empty, hname.ne_dot]
    rw [walkWith, hes]
    dsimp only
    rw [if_neg hdot, if_neg hname.ne_up, if_neg (Nat.not_lt.2 hname.size_le), hn]
    cases n with
    | file text => rfl
    | directory inner => rfl
    | link target => cases hlink
  cases links with
  | zero => exact hwalkWith _
  | succ links => exact hwalkWith _

/-- Components that do not count stay in a directory. -/
theorem walk_stay {parts : List String} (hes : t.root.get? here = some (.directory es))
    (hparts : ∀ part ∈ parts, part = "" ∨ part = ".") (links : Nat) :
    t.walk links here parts = .ok here := by
  have hwalkWith : ∀ follow, walkWith follow t here parts = .ok here := by
    intro follow
    induction parts with
    | nil => rfl
    | cons part rest ih =>
        have hpart : (decide (part = "") || decide (part = ".")) = true := by
          simpa using hparts part List.mem_cons_self
        rw [walkWith, hes]
        dsimp only
        rw [if_pos hpart]
        exact ih fun other hother => hparts other (List.mem_cons_of_mem _ hother)
  cases links with
  | zero => exact hwalkWith _
  | succ links => exact hwalkWith _

/-- A separator at the end of a path tells that it leads to a directory. -/
theorem walk_empty {place middle : List String} (h : t.walk links place [""] = .ok middle) :
    middle = place ∧ ∃ es, t.root.get? place = some (.directory es) := by
  have hwalkWith : ∀ follow, walkWith follow t place [""] = .ok middle →
      middle = place ∧ ∃ es, t.root.get? place = some (.directory es) := by
    intro follow h
    rw [walkWith] at h
    split at h
    · rename_i es hes
      cases h
      exact ⟨rfl, es, hes⟩
    · cases h
    · cases h
  cases links with
  | zero => exact hwalkWith _ h
  | succ links => exact hwalkWith _ h

/-- The path of an entry leads where its name leads from the directory. -/
theorem exists_walk_join (hname : '/' ∉ name.toList) (hne : path ≠ "")
    (h : t.walk links (t.origin path) (split path) = .ok here) :
    ∃ left, t.walk links (t.origin (join path name)) (split (join path name)) =
      t.walk left here [name] := by
  rw [origin_join hname]
  rcases join_cases hname path with ⟨rfl, -⟩ | ⟨before, rfl, heq⟩ | ⟨-, heq⟩
  · exact absurd rfl hne
  · -- the name stands where the path of the directory has an empty component
    rw [split_append_slash] at h
    obtain ⟨left, place, -, hempty, hrest⟩ := exists_walk_of_append h
    obtain ⟨rfl, -⟩ := walk_empty hempty
    rw [heq, split_append, split_of_slashless hname]
    exact ⟨left, hrest [name]⟩
  · have happend : t.walk links (t.origin path) (split path ++ []) = .ok here := by
      rwa [List.append_nil]
    obtain ⟨left, place, -, hnil, hrest⟩ := exists_walk_of_append happend
    rw [walk_nil] at hnil
    cases hnil
    rw [heq, split_append, split_of_slashless hname]
    exact ⟨left, hrest [name]⟩

theorem nulless_of_checkPath (h : checkPath path = .ok ()) :
    '\x00' ∉ path.toList ∧ path ≠ "" := by
  unfold checkPath at h
  split at h
  · cases h
  · rename_i hnul
    split at h
    · cases h
    · rename_i hempty
      exact ⟨fun hmem => hnul (List.contains_iff_mem.2 hmem),
        fun heq => hempty (String.isEmpty_iff.2 heq)⟩

theorem checkPath_eq (hnul : '\x00' ∉ path.toList) (hne : path ≠ "") :
    checkPath path =
      if path.utf8ByteSize ≤ maxPath then .ok () else .error .nameTooLong := by
  have hcontains : path.toList.contains '\x00' = false := by simpa using hnul
  have hempty : path.isEmpty = false := by simpa using hne
  unfold checkPath
  rw [hcontains, hempty, if_neg Bool.false_ne_true, if_neg Bool.false_ne_true]
  by_cases hsize : path.utf8ByteSize ≤ maxPath
  · rw [if_pos hsize, if_neg (Nat.not_lt.2 hsize)]
  · rw [if_neg hsize, if_pos (Nat.not_le.1 hsize)]

theorem size_le_of_checkPath (h : checkPath path = .ok ()) : path.utf8ByteSize ≤ maxPath := by
  obtain ⟨hnul, hne⟩ := nulless_of_checkPath h
  rw [checkPath_eq hnul hne] at h
  split at h
  · assumption
  · cases h

/-- The path of an entry is as good as that of the directory, unless it is too
long. -/
theorem checkPath_join (h : checkPath path = .ok ()) (hname : EntryName name) :
    checkPath (join path name) =
      if (join path name).utf8ByteSize ≤ maxPath then .ok () else .error .nameTooLong := by
  obtain ⟨hnul, hne⟩ := nulless_of_checkPath h
  refine checkPath_eq ?_ ?_
  · have hnulless := hname.nulless
    rcases join_cases hname.slashless path with ⟨hempty, -⟩ | ⟨before, hbefore, heq⟩ | ⟨-, heq⟩
    · exact absurd hempty hne
    · rw [heq, ← hbefore, String.toList_append, List.mem_append, not_or]
      exact ⟨hnul, hnulless⟩
    · rw [heq]
      simp [hnul, hnulless]
  · intro hempty
    have hcomponents := components_join hname.slashless hname.ne_empty hname.ne_dot path
    rw [hempty] at hcomponents
    exact absurd hcomponents.symm (List.append_ne_nil_of_right_ne_nil _ (List.cons_ne_nil _ _))

/-- The path of an entry leads to the entry, unless it is too long. -/
theorem canonical_join (hpath : t.canonical path = .ok here)
    (hes : t.root.get? here = some (.directory es)) (hname : EntryName name)
    (hn : es.lookup name = some n) (hlink : n.isLink = false) :
    t.canonical (join path name) =
      if (join path name).utf8ByteSize ≤ maxPath then .ok (here ++ [name])
      else .error .nameTooLong := by
  obtain ⟨⟨⟩, hchecked, hwalk⟩ := bind_eq_ok_iff.1 hpath
  obtain ⟨left, hleft⟩ :=
    exists_walk_join hname.slashless (nulless_of_checkPath hchecked).2 hwalk
  rw [walk_entry hes hname hn hlink] at hleft
  unfold canonical
  rw [hleft, checkPath_join hchecked hname]
  by_cases hsize : (join path name).utf8ByteSize ≤ maxPath
  · rw [if_pos hsize, if_pos hsize]
    rfl
  · rw [if_neg hsize, if_neg hsize]
    rfl

theorem node_join (hpath : t.canonical path = .ok here)
    (hes : t.root.get? here = some (.directory es)) (hname : EntryName name)
    (hn : es.lookup name = some n) (hlink : n.isLink = false) :
    t.node (join path name) =
      if (join path name).utf8ByteSize ≤ maxPath then .ok n else .error .nameTooLong := by
  unfold node
  rw [canonical_join hpath hes hname hn hlink]
  by_cases hsize : (join path name).utf8ByteSize ≤ maxPath
  · rw [if_pos hsize, if_pos hsize]
    dsimp only
    rw [get?_append_singleton hes, hn]
  · rw [if_neg hsize, if_neg hsize]

end FileTree

end XmlSchema
