import Mathlib.Data.List.Induction
import XmlSchema.Files.Tree
import XmlSchema.Proofs.Attempt

/-!
# Following paths

Where there are no links, a path is followed one component at a time, and what
it leads to does not depend on the way.  A tree that is altered keeps its
directories and its files where they are; so what a path leads to stays there.
-/

namespace XmlSchema

open Attempt

namespace FileNode

variable {names other : List String}

theorem lookup_putEntry (name key : String) (n : FileNode) (es : List (String × FileNode)) :
    (putEntry name n es).lookup key = if key = name then some n else es.lookup key := by
  induction es with
  | nil =>
      by_cases h : key = name
      · simp [putEntry, h]
      · simp [putEntry, List.lookup_cons, h, beq_false_of_ne h]
  | cons e rest ih =>
      obtain ⟨other, node⟩ := e
      unfold putEntry
      split
      · rename_i he
        subst he
        by_cases h : key = other
        · simp [h]
        · simp [List.lookup_cons, h, beq_false_of_ne h]
      · rename_i he
        rw [List.lookup_cons, List.lookup_cons, ih]
        by_cases h : key = other
        · subst h
          simp [he]
        · simp [beq_false_of_ne h]

theorem get?_append (n : FileNode) (names other : List String) :
    n.get? (names ++ other) = (n.get? names).bind (·.get? other) := by
  induction names generalizing n with
  | nil => rfl
  | cons name rest ih =>
      cases n with
      | directory es =>
          rw [List.cons_append, get?, get?]
          cases es.lookup name with
          | none => rfl
          | some m => exact ih m
      | file text => rfl
      | link target => rfl

/-- What stands on the way to a node is a directory. -/
theorem exists_directory_of_append {n m : FileNode} {name : String}
    (h : n.get? (names ++ name :: other) = some m) :
    ∃ es, n.get? names = some (.directory es) := by
  rw [get?_append] at h
  obtain ⟨d, hd, hm⟩ := Option.bind_eq_some_iff.1 h
  cases d with
  | directory es => exact ⟨es, hd⟩
  | file text => cases hm
  | link target => cases hm

theorem get?_put_self (old n : FileNode) (names : List String) :
    (old.put names n).get? names = some n := by
  induction names generalizing old with
  | nil => rfl
  | cons name rest ih =>
      rw [put, get?, lookup_putEntry, if_pos rfl]
      exact ih _

/-- A node that is put somewhere changes nothing that is not on its way. -/
theorem get?_put_of_not_prefix (old n : FileNode) (h : ¬ other <+: names)
    (h' : ¬ names <+: other) : (old.put names n).get? other = old.get? other := by
  induction names generalizing old other with
  | nil => exact absurd (List.nil_prefix) h'
  | cons name rest ih =>
      cases other with
      | nil => exact absurd (List.nil_prefix) h
      | cons key others =>
          rw [put, get?, lookup_putEntry]
          by_cases hkey : key = name
          · subst hkey
            rw [List.cons_prefix_cons, and_iff_right rfl] at h h'
            rw [if_pos rfl, Option.bind_some, ih _ h h']
            cases old with
            | directory es =>
                rw [get?]
                show ((es.lookup key).getD (.directory [])).get? others = _
                cases es.lookup key with
                | none => cases others with
                  | nil => exact absurd List.nil_prefix h
                  | cons => rfl
                | some m => rfl
            | file text => cases others with
              | nil => exact absurd List.nil_prefix h
              | cons => rfl
            | link target => cases others with
              | nil => exact absurd List.nil_prefix h
              | cons => rfl
          · rw [if_neg hkey]
            cases old with
            | directory es => rfl
            | file text => rfl
            | link target => rfl

/-- What stands on the way to a node that is put somewhere is a directory. -/
theorem exists_directory_put (old n : FileNode) (name : String) (other rest : List String) :
    ∃ es, (old.put (other ++ name :: rest) n).get? other = some (.directory es) :=
  exists_directory_of_append (get?_put_self old n (other ++ name :: rest))

/-- There are no links at a node and below it. -/
def Linkless (n : FileNode) : Prop := ∀ names target, n.get? names ≠ some (.link target)

theorem linkless_file (text : String) : (file text).Linkless := by
  rintro (- | ⟨name, rest⟩) target h <;> cases h

theorem linkless_directory {es : List (String × FileNode)} (h : ∀ e ∈ es, e.2.Linkless) :
    (directory es).Linkless := by
  rintro (- | ⟨name, rest⟩) target hlink
  · cases hlink
  · obtain ⟨n, hn, hbelow⟩ := Option.bind_eq_some_iff.1 hlink
    obtain ⟨front, back, rfl, -⟩ := List.lookup_eq_some_iff.1 hn
    exact h (name, n) (by simp) rest target hbelow

end FileNode

namespace FileTree

/-- There are no links in a tree. -/
def Linkless (t : FileTree) : Prop := t.root.Linkless

/-- A tree in which files have changed, but nothing has been moved.  Only files
at certain places may have another text. -/
structure Alters (places : List String → Prop) (t later : FileTree) : Prop where
  current_eq : later.current = t.current
  linkless : t.Linkless → later.Linkless
  directory : ∀ names es, t.root.get? names = some (.directory es) →
    ∃ es', later.root.get? names = some (.directory es')
  file : ∀ names text, t.root.get? names = some (.file text) →
    ∃ text', later.root.get? names = some (.file text') ∧ (¬ places names → text' = text)

namespace Alters

variable {places wider : List String → Prop} {t later last : FileTree}

theorem refl (places : List String → Prop) (t : FileTree) : t.Alters places t :=
  ⟨rfl, id, fun _ es h => ⟨es, h⟩, fun _ text h => ⟨text, h, fun _ => rfl⟩⟩

theorem mono (h : t.Alters places later) (hwider : ∀ names, places names → wider names) :
    t.Alters wider later :=
  ⟨h.current_eq, h.linkless, h.directory, fun names text hnames =>
    have ⟨text', htext', hsame⟩ := h.file names text hnames
    ⟨text', htext', fun hwide => hsame fun hplace => hwide (hwider names hplace)⟩⟩

theorem trans (h : t.Alters places later) (h' : later.Alters places last) :
    t.Alters places last where
  current_eq := h'.current_eq.trans h.current_eq
  linkless := h'.linkless ∘ h.linkless
  directory names es hnames := by
    obtain ⟨es', hes'⟩ := h.directory names es hnames
    exact h'.directory names es' hes'
  file names text hnames := by
    obtain ⟨text', htext', hsame⟩ := h.file names text hnames
    obtain ⟨text'', htext'', hsame'⟩ := h'.file names text' htext'
    exact ⟨text'', htext'', fun hplace => (hsame' hplace).trans (hsame hplace)⟩

/-- A node is put into a directory, in the place of nothing or of a file. -/
theorem put {above : List String} {name : String} {n : FileNode}
    (habove : ∃ es, t.root.get? above = some (.directory es))
    (hold : t.root.get? (above ++ [name]) = none ∨ places (above ++ [name]) ∧
      (∃ old, t.root.get? (above ++ [name]) = some (.file old)) ∧ ∃ text, n = .file text)
    (hn : n = .directory [] ∨ ∃ text, n = .file text) :
    t.Alters places { t with root := t.root.put (above ++ [name]) n } := by
  have hplace : ∀ es, t.root.get? (above ++ [name]) ≠ some (.directory es) := by
    intro es h
    rcases hold with hnone | ⟨-, ⟨old, hfile⟩, -⟩
    · cases h.symm.trans hnone
    · cases h.symm.trans hfile
  -- a node is the one that is put, or below it, or above it, or not on its way
  have hcases : ∀ other, other = above ++ [name] ∨
      (t.root.get? other = none ∧ (t.root.put (above ++ [name]) n).get? other = none) ∨
      ((∃ es, t.root.get? other = some (.directory es)) ∧
        ∃ es, (t.root.put (above ++ [name]) n).get? other = some (.directory es)) ∨
      (t.root.put (above ++ [name]) n).get? other = t.root.get? other := by
    intro other
    by_cases hbelow : above ++ [name] <+: other
    · obtain ⟨rest, rfl⟩ := hbelow
      cases rest with
      | nil => exact .inl (List.append_nil _)
      | cons key rest =>
          refine .inr (.inl ⟨?_, ?_⟩)
          · refine Option.eq_none_iff_forall_ne_some.2 fun m hm => ?_
            obtain ⟨es, hes⟩ := FileNode.exists_directory_of_append hm
            exact hplace es hes
          · rw [FileNode.get?_append, FileNode.get?_put_self, Option.bind_some]
            rcases hn with rfl | ⟨text, rfl⟩ <;> rfl
    · by_cases habove' : other <+: above ++ [name]
      · rcases List.prefix_concat_iff.1 habove' with rfl | ⟨rest, rfl⟩
        · exact .inl rfl
        · refine .inr (.inr (.inl ⟨?_, ?_⟩))
          · obtain ⟨es, hes⟩ := habove
            cases rest with
            | nil =>
                rw [List.append_nil] at hes
                exact ⟨es, hes⟩
            | cons key rest => exact FileNode.exists_directory_of_append hes
          · rw [List.append_assoc]
            cases rest with
            | nil => exact FileNode.exists_directory_put _ _ _ _ _
            | cons key rest => exact FileNode.exists_directory_put _ _ _ _ _
      · exact .inr (.inr (.inr (FileNode.get?_put_of_not_prefix _ _ habove' hbelow)))
  refine ⟨rfl, fun hlinks other target h => ?_, fun other es h => ?_, fun other text h => ?_⟩
  · rcases hcases other with rfl | ⟨-, hnone⟩ | ⟨-, es, hes⟩ | heq
    · rw [FileNode.get?_put_self] at h
      rcases hn with rfl | ⟨text, rfl⟩ <;> cases h
    · cases h.symm.trans hnone
    · cases h.symm.trans hes
    · exact hlinks other target (heq.symm.trans h)
  · rcases hcases other with rfl | ⟨hnone, -⟩ | ⟨-, hes⟩ | heq
    · exact absurd h (hplace es)
    · cases h.symm.trans hnone
    · exact hes
    · exact ⟨es, heq.trans h⟩
  · rcases hcases other with rfl | ⟨hnone, -⟩ | ⟨⟨es, hes⟩, -⟩ | heq
    · rcases hold with hnone | ⟨hplaces, -, text', rfl⟩
      · cases h.symm.trans hnone
      · exact ⟨text', FileNode.get?_put_self _ _ _, fun hnot => absurd hplaces hnot⟩
    · cases h.symm.trans hnone
    · cases h.symm.trans hes
    · exact ⟨text, heq.trans h, fun _ => rfl⟩

end Alters

/-- One component of a path where there are no links. -/
def pace (t : FileTree) (here : List String) (part : String) : Except FileFault (List String) :=
  match t.root.get? here with
  | some (.directory es) =>
      if part = "" || part = "." then .ok here
      else if part = ".." then .ok here.dropLast
      else if maxName < part.utf8ByteSize then .error .nameTooLong
      else if (es.lookup part).isSome then .ok (here ++ [part])
      else .error .notFound
  | some _ => .error .notDirectory
  | none => .error .notFound

variable {t later : FileTree} {places : List String → Prop} {links : Nat}
  {here names : List String} {part : String}

theorem get?_append_singleton {es : List (String × FileNode)}
    (h : t.root.get? here = some (.directory es)) (part : String) :
    t.root.get? (here ++ [part]) = es.lookup part := by
  rw [FileNode.get?_append, h, Option.bind_some, FileNode.get?]
  cases es.lookup part <;> rfl

/-- A component stays in a directory, leads up from it or names an entry. -/
theorem pace_eq_ok_iff : t.pace here part = .ok names ↔
    ∃ es, t.root.get? here = some (.directory es) ∧
      ((part = "" ∨ part = ".") ∧ names = here ∨ part = ".." ∧ names = here.dropLast ∨
        (part ≠ "" ∧ part ≠ "." ∧ part ≠ ".." ∧ part.utf8ByteSize ≤ maxName) ∧
          (es.lookup part).isSome ∧ names = here ++ [part]) := by
  unfold pace
  cases t.root.get? here with
  | none => simp
  | some n =>
      cases n with
      | file text => simp
      | link target => simp
      | directory es =>
          simp only [Option.some.injEq, FileNode.directory.injEq, exists_eq_left']
          split
          · grind
          · grind

theorem walkWith_eq_foldlM (ht : t.Linkless)
    (follow : List String → List String → Except FileFault (List String))
    (here todo : List String) :
    walkWith follow t here todo = todo.foldlM t.pace here := by
  induction todo generalizing here with
  | nil => rfl
  | cons part rest ih =>
      rw [walkWith, List.foldlM_cons, pace]
      cases hhere : t.root.get? here with
      | none => rfl
      | some n =>
          cases n with
          | file text => rfl
          | link target => exact absurd hhere (ht here target)
          | directory es =>
              dsimp only
              split
              · exact ih here
              · split
                · exact ih _
                · split
                  · rfl
                  · cases hpart : es.lookup part with
                    | none => rfl
                    | some m =>
                        cases m with
                        | link target =>
                            exact absurd ((get?_append_singleton hhere part).trans hpart)
                              (ht _ target)
                        | file text => exact ih _
                        | directory es' => exact ih _

/-- Without links, following a path is taking one component after the other. -/
theorem walk_eq_foldlM (ht : t.Linkless) (links : Nat) (here todo : List String) :
    t.walk links here todo = todo.foldlM t.pace here := by
  cases links with
  | zero => exact walkWith_eq_foldlM ht _ here todo
  | succ links => exact walkWith_eq_foldlM ht _ here todo

theorem pace_alters (ht : t.Linkless) (h : t.Alters places later)
    (hpace : t.pace here part = .ok names) : later.pace here part = .ok names := by
  obtain ⟨es, hes, hstep⟩ := pace_eq_ok_iff.1 hpace
  obtain ⟨es', hes'⟩ := h.directory here es hes
  -- what is in the directory is still there
  have hkeep : (es.lookup part).isSome → (es'.lookup part).isSome := by
    rw [← get?_append_singleton hes, ← get?_append_singleton hes']
    intro hsome
    obtain ⟨m, hm⟩ := Option.isSome_iff_exists.1 hsome
    cases m with
    | file text =>
        obtain ⟨text', htext', -⟩ := h.file _ text hm
        rw [htext']
        rfl
    | link target => exact absurd hm (ht _ target)
    | directory inner =>
        obtain ⟨inner', hinner'⟩ := h.directory _ inner hm
        rw [hinner']
        rfl
  refine pace_eq_ok_iff.2 ⟨es', hes', ?_⟩
  rcases hstep with hstay | hup | ⟨hname, hsome, heq⟩
  · exact .inl hstay
  · exact .inr (.inl hup)
  · exact .inr (.inr ⟨hname, hkeep hsome, heq⟩)

theorem foldlM_pace_alters (ht : t.Linkless) (h : t.Alters places later) {todo : List String}
    (hpath : todo.foldlM t.pace here = .ok names) : todo.foldlM later.pace here = .ok names := by
  induction todo generalizing here with
  | nil => exact hpath
  | cons part rest ih =>
      rw [List.foldlM_cons] at hpath ⊢
      cases hpace : t.pace here part with
      | error fault =>
          rw [hpace] at hpath
          cases hpath
      | ok next =>
          rw [hpace] at hpath
          rw [pace_alters ht h hpace]
          exact ih hpath

theorem exists_directory_dropLast {es : List (String × FileNode)}
    (h : t.root.get? here = some (.directory es)) :
    ∃ es', t.root.get? here.dropLast = some (.directory es') := by
  cases here using List.reverseRecOn with
  | nil => exact ⟨es, h⟩
  | append_singleton above name =>
      rw [List.dropLast_concat]
      exact FileNode.exists_directory_of_append h

theorem isSome_of_pace (hpace : t.pace here part = .ok names) : (t.root.get? names).isSome := by
  obtain ⟨es, hes, ⟨-, rfl⟩ | ⟨-, rfl⟩ | ⟨-, hsome, rfl⟩⟩ := pace_eq_ok_iff.1 hpace
  · rw [hes]
    rfl
  · obtain ⟨es', hes'⟩ := exists_directory_dropLast hes
    rw [hes']
    rfl
  · rwa [get?_append_singleton hes]

theorem foldlM_pace_append {init todo : List String} :
    (init ++ todo).foldlM t.pace here = .ok names ↔
      ∃ middle, init.foldlM t.pace here = .ok middle ∧ todo.foldlM t.pace middle = .ok names := by
  rw [List.foldlM_append]
  exact bind_eq_ok_iff

theorem foldlM_pace_singleton (t : FileTree) (here : List String) (part : String) :
    [part].foldlM t.pace here = t.pace here part := by
  rw [List.foldlM_cons]
  cases t.pace here part <;> rfl

/-- What a path leads to is there, unless the path is empty. -/
theorem isSome_of_foldlM_pace {todo : List String} (hne : todo ≠ [])
    (hpath : todo.foldlM t.pace here = .ok names) : (t.root.get? names).isSome := by
  cases todo using List.reverseRecOn with
  | nil => exact absurd rfl hne
  | append_singleton init part =>
      obtain ⟨middle, -, hlast⟩ := foldlM_pace_append.1 hpath
      rw [foldlM_pace_singleton] at hlast
      exact isSome_of_pace hlast

end FileTree

end XmlSchema
