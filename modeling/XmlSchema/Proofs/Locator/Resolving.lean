import Mathlib.Logic.Relation
import XmlSchema.Proofs.Files.Change
import XmlSchema.Proofs.Text.Trimming

/-!
# Resolving the components of a path

To resolve components is to rewrite them: `.` and empty ones are dropped, an
ordinary component and `..` behind it cancel each other, and `..` at the root
is dropped.  In whatever order this is done, it ends with one list, which
normalising computes.  So joining a relative location to a path resolves the
components of the directory and of the location together, and can be done in
one step or in several.
-/

namespace XmlSchema

namespace Path

/-- Whether a component counts. -/
def counts (part : String) : Bool := part != "" && part != "."

/-- A component that names an entry of a directory. -/
def Ordinary (part : String) : Prop := counts part ∧ part ≠ ".."

/-- One step of resolving components. -/
inductive Reduces (absolute : Bool) : List String → List String → Prop
  | drop {part : String} (front back : List String) (h : counts part = false) :
      Reduces absolute (front ++ part :: back) (front ++ back)
  | cancel {part : String} (front back : List String) (h : Ordinary part) :
      Reduces absolute (front ++ part :: ".." :: back) (front ++ back)
  | root (back : List String) (h : absolute = true) : Reduces absolute (".." :: back) back

/-- Components resolve to others that cannot be resolved any further. -/
structure Resolves (absolute : Bool) (parts result : List String) : Prop where
  reduces : Relation.ReflTransGen (Reduces absolute) parts result
  final : ∀ less, ¬ Reduces absolute result less

/-- What components resolve to. -/
def resolution (absolute : Bool) (parts : List String) : List String :=
  ((parts.filter counts).foldl (step absolute) []).reverse

variable {absolute : Bool} {parts more less result : List String} {part : String}

theorem counts_of_isPart (h : IsPart part) : counts part = true := by
  simp [counts, h.ne_empty, h.ne_dot]

theorem components_eq (s : String) : components s = (FileTree.split s).filter counts := rfl

theorem filter_components (s : String) : (components s).filter counts = components s :=
  List.filter_eq_self.2 fun _ h => counts_of_isPart (isPart_of_mem_components h)

theorem resolution_components_append (more : List String) (s : String) :
    resolution absolute (more ++ components s) =
      resolution absolute (more ++ FileTree.split s) := by
  unfold resolution
  rw [List.filter_append, List.filter_append, filter_components, components_eq]

theorem normalise_eq {p : Path} (h : p.Clean) :
    p.normalise = ⟨p.absolute, resolution p.absolute p.parts⟩ := by
  unfold normalise resolution
  rw [List.filter_eq_self.2 fun part hpart => counts_of_isPart (h part hpart)]

section Confluence

/-- An ordinary component is put on the stack, and `..` takes it off. -/
theorem step_step (stack : List String) (h : Ordinary part) :
    step absolute (step absolute stack part) ".." = stack := by
  unfold step
  rw [if_neg h.2, if_pos rfl]
  exact if_neg h.2

/-- A step does not matter to what is resolved. -/
theorem Reduces.resolution_eq (h : Reduces absolute more less) :
    resolution absolute more = resolution absolute less := by
  unfold resolution
  cases h with
  | drop front back h =>
      rw [List.filter_append, List.filter_append, List.filter_cons_of_neg (by simp [h])]
  | cancel front back h =>
      have hup : counts ".." = true := by decide
      rw [List.filter_append, List.filter_append, List.filter_cons_of_pos h.1,
        List.filter_cons_of_pos hup, List.foldl_append, List.foldl_append, List.foldl_cons,
        List.foldl_cons, step_step _ h]
  | root back h =>
      subst h
      rfl

theorem resolution_eq_of_reduces (h : Relation.ReflTransGen (Reduces absolute) more less) :
    resolution absolute more = resolution absolute less := by
  induction h with
  | refl => rfl
  | tail _ hstep ih => exact ih.trans hstep.resolution_eq

theorem Reduces.append (h : Reduces absolute more less) (part : String) :
    Reduces absolute (more ++ [part]) (less ++ [part]) := by
  cases h with
  | drop front back h =>
      rw [List.append_assoc, List.append_assoc]
      exact .drop front (back ++ [part]) h
  | cancel front back h =>
      rw [List.append_assoc, List.append_assoc]
      exact .cancel front (back ++ [part]) h
  | root _ h => exact .root (less ++ [part]) h

/-- Every step leaves fewer components. -/
theorem Reduces.length_lt (h : Reduces absolute more less) : less.length < more.length := by
  cases h with
  | drop front back h => simp
  | cancel front back h =>
      simp only [List.length_append, List.length_cons]
      omega
  | root _ h => exact Nat.lt_succ_self _

theorem length_le_of_reduces (h : Relation.ReflTransGen (Reduces absolute) more less) :
    less.length ≤ more.length := by
  induction h with
  | refl => exact Nat.le_refl _
  | tail _ hstep ih => exact Nat.le_of_lt (Nat.lt_of_lt_of_le hstep.length_lt ih)

theorem settled_resolution (parts : List String) :
    Settled absolute (resolution absolute parts).reverse := by
  rw [resolution, List.reverse_reverse]
  exact foldl_step_settled _ (show Settled absolute [] from trivial)

theorem mem_filter_of_mem_resolution (h : part ∈ resolution absolute parts) :
    part ∈ parts.filter counts := by
  have hmem : part ∈ parts.filter counts ++ [] :=
    foldl_step_subset (parts.filter counts) [] (List.mem_reverse.1 h)
  rwa [List.append_nil] at hmem

theorem counts_of_mem_resolution (h : part ∈ resolution absolute parts) : counts part = true :=
  (List.mem_filter.1 (mem_filter_of_mem_resolution h)).2

theorem resolution_append (parts : List String) (part : String) :
    resolution absolute (parts ++ [part]) =
      if counts part then (step absolute (resolution absolute parts).reverse part).reverse
      else resolution absolute parts := by
  unfold resolution
  rw [List.filter_append, List.foldl_append, List.reverse_reverse]
  split
  · rename_i h
    rw [List.filter_cons_of_pos h]
    rfl
  · rename_i h
    rw [List.filter_cons_of_neg h]
    rfl

/-- Resolved components and one more resolve in one step, if any. -/
theorem reduces_step (h : counts part = true) :
    Relation.ReflTransGen (Reduces absolute) (resolution absolute parts ++ [part])
      (step absolute (resolution absolute parts).reverse part).reverse := by
  have hcounts : ∀ q ∈ resolution absolute parts, counts q = true :=
    fun q => counts_of_mem_resolution
  generalize resolution absolute parts = done at hcounts ⊢
  unfold step
  by_cases hpart : part = ".."
  · subst hpart
    rw [if_pos rfl]
    rcases List.eq_nil_or_concat done with rfl | ⟨below, top, rfl⟩
    · cases absolute with
      | true => exact .single (.root [] rfl)
      | false => exact .refl
    · rw [List.concat_eq_append, List.reverse_append, List.reverse_singleton,
        List.singleton_append]
      dsimp only
      split
      · rw [List.reverse_cons, List.reverse_cons, List.reverse_reverse]
      · rename_i htop
        rw [List.reverse_reverse, List.append_assoc]
        have hordinary : Ordinary top := ⟨hcounts top (by simp), htop⟩
        have hcancel : Reduces absolute (below ++ [top, ".."]) (below ++ []) :=
          .cancel below [] hordinary
        rw [List.append_nil] at hcancel
        exact .single hcancel
  · rw [if_neg hpart, List.reverse_cons, List.reverse_reverse]

theorem reduces_resolution (parts : List String) :
    Relation.ReflTransGen (Reduces absolute) parts (resolution absolute parts) := by
  induction parts using List.reverseRecOn with
  | nil => exact .refl
  | append_singleton parts part ih =>
      have hfront : Relation.ReflTransGen (Reduces absolute) (parts ++ [part])
          (resolution absolute parts ++ [part]) :=
        ih.lift (· ++ [part]) fun _ _ h => h.append part
      rw [resolution_append]
      split
      · rename_i h
        exact hfront.trans (reduces_step h)
      · rename_i h
        have hdrop : Reduces absolute (resolution absolute parts ++ [part])
            (resolution absolute parts ++ []) := .drop _ [] (Bool.eq_false_iff.2 h)
        rw [List.append_nil] at hdrop
        exact hfront.tail hdrop

/-- Resolved components stay as they are. -/
theorem resolution_resolution (parts : List String) :
    resolution absolute (resolution absolute parts) = resolution absolute parts :=
  (resolution_eq_of_reduces (reduces_resolution parts)).symm

/-- Components resolve to one list, in whatever order the steps are taken. -/
theorem resolves_iff : Resolves absolute parts result ↔ result = resolution absolute parts := by
  constructor
  · intro h
    have hresult : Relation.ReflTransGen (Reduces absolute) result (resolution absolute result) :=
      reduces_resolution result
    rw [Relation.reflTransGen_iff_eq h.final] at hresult
    rw [resolution_eq_of_reduces h.reduces]
    exact hresult.symm
  · rintro rfl
    refine ⟨reduces_resolution parts, fun less hless => ?_⟩
    -- what is left would resolve to the same list, which is longer
    have hback : Relation.ReflTransGen (Reduces absolute) less (resolution absolute less) :=
      reduces_resolution less
    rw [← hless.resolution_eq, resolution_resolution] at hback
    exact Nat.lt_irrefl _ (Nat.lt_of_lt_of_le hless.length_lt (length_le_of_reduces hback))

/-- Some of the components can be resolved first. -/
theorem resolution_append_left (parts more : List String) :
    resolution absolute (resolution absolute parts ++ more) =
      resolution absolute (parts ++ more) := by
  induction more using List.reverseRecOn with
  | nil => rw [List.append_nil, List.append_nil, resolution_resolution]
  | append_singleton more part ih =>
      rw [← List.append_assoc, ← List.append_assoc, resolution_append, ih, resolution_append]

end Confluence

/-- Components of which `..` stands in front of all others, and not at all in
an absolute path. -/
def Led (absolute : Bool) (parts : List String) : Prop :=
  ∃ (climb : Nat) (rest : List String), parts = List.replicate climb ".." ++ rest ∧
    (∀ part ∈ rest, Ordinary part) ∧ (absolute = true → climb = 0)

theorem led_of_settled {stack : List String} (h : Settled absolute stack)
    (hcounts : ∀ part ∈ stack, counts part = true) : Led absolute stack.reverse := by
  induction stack with
  | nil => exact ⟨0, [], rfl, List.forall_mem_nil _, fun _ => rfl⟩
  | cons part below ih =>
      obtain ⟨climb, rest, hbelow, hrest, habsolute⟩ :=
        ih h.1 fun q hq => hcounts q (List.mem_cons_of_mem _ hq)
      rw [List.reverse_cons, hbelow]
      by_cases hpart : part = ".."
      · obtain ⟨hrelative, hclimbs⟩ := h.2 hpart
        -- there is nothing ordinary below `..`
        have hnil : rest = [] := by
          refine List.eq_nil_iff_forall_not_mem.2 fun q hq => (hrest q hq).2 (hclimbs q ?_)
          rw [← List.mem_reverse, hbelow]
          exact List.mem_append_right _ hq
        refine ⟨climb + 1, [], ?_, List.forall_mem_nil _, fun hyes => ?_⟩
        · rw [hnil, hpart, List.append_nil, List.append_nil, List.replicate_succ']
        · rw [hrelative] at hyes
          cases hyes
      · refine ⟨climb, rest ++ [part], List.append_assoc _ _ _, fun q hq => ?_, habsolute⟩
        rcases List.mem_append.1 hq with hq | hq
        · exact hrest q hq
        · rw [List.mem_singleton.1 hq]
          exact ⟨hcounts part List.mem_cons_self, hpart⟩

theorem led_resolution (parts : List String) : Led absolute (resolution absolute parts) := by
  have hled : Led absolute (resolution absolute parts).reverse.reverse :=
    led_of_settled (settled_resolution parts) fun part hpart =>
      counts_of_mem_resolution (List.mem_reverse.1 hpart)
  rwa [List.reverse_reverse] at hled

/-- An ordinary component stays behind what is resolved before it. -/
theorem resolution_append_ordinary (parts : List String) (h : Ordinary part) :
    resolution absolute (parts ++ [part]) = resolution absolute parts ++ [part] := by
  have hpush : step absolute (resolution absolute parts).reverse part =
      part :: (resolution absolute parts).reverse := if_neg h.2
  rw [resolution_append, if_pos h.1, hpush, List.reverse_cons, List.reverse_reverse]

section Last

/-- Whether a component ends in a backslash, so that a locator that ends in the
component stands for a directory. -/
def endsInBackslash (part : String) : Bool := part.toList.getLast? == some '\\'

variable {s : String}

/-- A text is its last component with what stands before. -/
theorem eq_of_getLast?_split (h : (FileTree.split s).getLast? = some part) :
    '/' ∉ part.toList ∧ (s = part ∨ ∃ before, s = before ++ "/" ++ part ∧
      FileTree.split s = FileTree.split before ++ [part]) := by
  have hslashless : '/' ∉ part.toList := by
    obtain ⟨cs, hcs, rfl⟩ := List.mem_map.1 (List.mem_of_getLast? h)
    rw [String.toList_ofList]
    exact Text.not_mem_of_mem_splitOnChar hcs
  refine ⟨hslashless, ?_⟩
  obtain ⟨init, hinit⟩ := List.getLast?_eq_some_iff.1 h
  have hs := FileTree.intercalate_split s
  rw [hinit] at hs
  cases init with
  | nil =>
      rw [List.nil_append, String.intercalate_singleton] at hs
      exact .inl hs.symm
  | cons first rest =>
      have happend : s = "/".intercalate (first :: rest) ++ "/" ++ part := by
        rw [String.intercalate_append_of_ne_nil (List.cons_ne_nil _ _) (List.cons_ne_nil _ _),
          String.intercalate_singleton] at hs
        exact hs.symm
      refine .inr ⟨_, happend, ?_⟩
      rw [happend, FileTree.split_append, FileTree.split_of_slashless hslashless]

theorem getLast?_split (before part : String) (h : '/' ∉ part.toList) :
    (FileTree.split (before ++ "/" ++ part)).getLast? = some part := by
  rw [FileTree.split_append, FileTree.split_of_slashless h, List.getLast?_append,
    List.getLast?_singleton, Option.some_or]

theorem split_intercalate_of_slashless (hne : parts ≠ [])
    (h : ∀ part ∈ parts, '/' ∉ part.toList) : FileTree.split ("/".intercalate parts) = parts := by
  have hslashless : ∀ cs ∈ parts.map String.toList, '/' ∉ cs := by
    intro cs hcs
    obtain ⟨part, hpart, rfl⟩ := List.mem_map.1 hcs
    exact h part hpart
  have hsep : "/".toList = ['/'] := rfl
  have hid : String.ofList ∘ String.toList = id := funext fun _ => String.ofList_toList
  unfold FileTree.split
  rw [String.toList_intercalate, hsep, Text.splitOnChar_eq,
    List.splitOn_intercalate '/' hslashless (List.map_eq_nil_iff.not.2 hne), List.map_map, hid,
    List.map_id]

/-- The text of a path has its components, behind an empty one for the root. -/
theorem split_text {p : Path} (h : p.Clean) (hne : p.parts ≠ []) :
    FileTree.split p.text = (if p.absolute then [""] else []) ++ p.parts := by
  have hparts := split_intercalate_of_slashless hne fun part hpart => (h part hpart).slashless
  unfold text
  cases p.absolute with
  | false =>
      rw [if_neg nofun, if_neg nofun, String.empty_append, hparts]
      rfl
  | true =>
      have hroot : FileTree.split "" = [""] := FileTree.split_of_slashless List.not_mem_nil
      have happend := FileTree.split_append "" ("/".intercalate p.parts)
      rw [String.empty_append, hroot, hparts] at happend
      exact happend

theorem getLast?_split_text {p : Path} {init : List String} (h : p.Clean)
    (hparts : p.parts = init ++ [part]) : (FileTree.split p.text).getLast? = some part := by
  rw [split_text h (by simp [hparts]), hparts, ← List.append_assoc, List.getLast?_concat]

/-- The directory of a locator that ends in an ordinary component. -/
theorem directoryOf_eq (h : (FileTree.split s).getLast? = some part) (hpart : Ordinary part) :
    ∃ init, components s = init ++ [part] ∧
      directoryOf s = ⟨isAbsolute s, init ++ if endsInBackslash part then [part] else []⟩ := by
  obtain ⟨init, hinit⟩ := List.getLast?_eq_some_iff.1 h
  have hcomponents : components s = init.filter counts ++ [part] := by
    rw [components_eq, hinit, List.filter_append, List.filter_cons_of_pos hpart.1, List.filter_nil]
  refine ⟨init.filter counts, hcomponents, ?_⟩
  obtain ⟨hslashless, hs⟩ := eq_of_getLast?_split h
  have hne : part.toList ≠ [] := by
    intro hnil
    rw [String.toList_eq_nil_iff.1 hnil] at hpart
    exact absurd hpart.1 (by decide)
  have hlast : s.toList.getLast? = part.toList.getLast? := by
    rcases hs with rfl | ⟨before, rfl, -⟩
    · rfl
    · rw [String.toList_append, List.getLast?_append_of_ne_nil _ hne]
  have hlastPart : ∃ c, part.toList.getLast? = some c ∧ c ≠ '/' := by
    refine ⟨_, List.getLast?_eq_some_getLast hne, fun hc => hslashless (hc ▸ List.getLast_mem hne)⟩
  obtain ⟨c, hc, hcslash⟩ := hlastPart
  unfold directoryOf ofString endsInBackslash
  rw [hlast, hc, hcomponents]
  by_cases hback : c = '\\'
  · subst hback
    rfl
  · split
    · rename_i heq
      exact absurd (Option.some.inj heq) hcslash
    · rename_i heq
      exact absurd (Option.some.inj heq) hback
    · simp [hback]

end Last

end Path

namespace Locator

/-- A location that is resolved against a path: it has neither a scheme nor
blanks at its ends, and is not an absolute path. -/
structure Relative (location : String) : Prop where
  schemeless : hasScheme location = false
  relative : Path.isAbsolute location = false
  trimmed : Text.trim location = location

variable {base : Option String} {location further : String} {part : String}

/-- A path below the directory of a base is joined to it by normalising. -/
theorem join_eq (hbase : ∀ b, base = some b → hasScheme b = false) (h : Relative location) :
    join location base = ((Path.directoryOf (base.getD "")).append location).normalise.text := by
  have hnone : (Path.ofString location).normalise.text =
      ((Path.directoryOf "").append location).normalise.text := by
    unfold Path.ofString Path.append
    rw [h.relative]
    rfl
  unfold join
  dsimp only
  rw [h.trimmed, h.schemeless, h.relative]
  cases base with
  | none => exact hnone
  | some b =>
      by_cases hb : b = ""
      · subst hb
        exact hnone
      · have hfilter : (some b).filter (fun b => !b.isEmpty) = some b :=
          Option.filter_some_pos (by simpa using hb)
        rw [hfilter]
        dsimp only
        rw [hbase b rfl]
        rfl

/-- What a location resolves to against a base. -/
def resolved (base : Option String) (location : String) : List String :=
  let directory := Path.directoryOf (base.getD "")
  Path.resolution directory.absolute (directory.parts ++ FileTree.split location)

theorem normalise_append (base : Option String) (location : String) :
    ((Path.directoryOf (base.getD "")).append location).normalise =
      ⟨(Path.directoryOf (base.getD "")).absolute, resolved base location⟩ := by
  rw [Path.normalise_eq ((Path.clean_directoryOf _).append location), resolved,
    ← Path.resolution_components_append]
  rfl

/-- A location that has been joined is read back as what it resolves to. -/
theorem ofString_join (hbase : ∀ b, base = some b → hasScheme b = false) (h : Relative location) :
    Path.ofString (join location base) =
      ⟨(Path.directoryOf (base.getD "")).absolute, resolved base location⟩ := by
  rw [join_eq hbase h, ← normalise_append]
  exact Path.ofString_text (Path.clean_normalise ((Path.clean_directoryOf _).append location))

/-- To join a location to one that has been joined is to join a location that
leads there at once. -/
theorem join_join (hbase : ∀ b, base = some b → hasScheme b = false) (h : Relative location)
    (hlast : (FileTree.split location).getLast? = some part) (hpart : Path.Ordinary part)
    (hscheme : hasScheme (join location base) = false) {combined : String}
    (hfurther : Relative further) (hcombined : Relative combined)
    (hcomponents : Path.components combined =
      (Path.directoryOf location).parts ++ Path.components further) :
    join further (some (join location base)) = join combined base := by
  obtain ⟨init, hinit, hdirectory⟩ := Path.directoryOf_eq hlast hpart
  let directory := Path.directoryOf (base.getD "")
  -- what the location resolves to ends in the ordinary component as well
  have hresolved : resolved base location =
      Path.resolution directory.absolute (directory.parts ++ init) ++ [part] := by
    unfold resolved
    rw [← Path.resolution_components_append, hinit, ← List.append_assoc,
      Path.resolution_append_ordinary _ hpart]
  have hjoined := ofString_join hbase h
  have hlast' : (FileTree.split (join location base)).getLast? = some part := by
    have hparts : ((Path.directoryOf (base.getD "")).append location).normalise.parts =
        Path.resolution directory.absolute (directory.parts ++ init) ++ [part] := by
      rw [normalise_append]
      exact hresolved
    rw [join_eq hbase h]
    exact Path.getLast?_split_text
      (Path.clean_normalise ((Path.clean_directoryOf _).append location)) hparts
  obtain ⟨init', hinit', hdirectory'⟩ := Path.directoryOf_eq hlast' hpart
  have hcomponents' : (Path.ofString (join location base)).parts = resolved base location := by
    rw [hjoined]
  have habsolute : (Path.ofString (join location base)).absolute = directory.absolute := by
    rw [hjoined]
  dsimp only [Path.ofString] at hcomponents' habsolute
  rw [hcomponents', hresolved, List.append_left_inj] at hinit'
  have hsome : ∀ b, some (join location base) = some b → hasScheme b = false := by
    rintro b ⟨⟩
    exact hscheme
  rw [join_eq hsome hfurther, join_eq hbase hcombined, normalise_append, normalise_append]
  refine congrArg Path.text ?_
  rw [Option.getD_some, hdirectory', habsolute]
  refine congrArg (Path.mk directory.absolute) ?_
  unfold resolved
  rw [Option.getD_some, hdirectory', habsolute, ← Path.resolution_components_append,
    ← Path.resolution_components_append, hcomponents, hdirectory, ← hinit']
  dsimp only
  rw [List.append_assoc, Path.resolution_append_left]
  simp only [List.append_assoc, directory]

/-- The text of a location below the directory that another one stands in. -/
def below (location further : String) : String :=
  let names := FileTree.split location
  let directory := if names.getLast?.any Path.endsInBackslash then names else names.dropLast
  "/".intercalate (directory ++ [further])

/-- What follows a slash tells nothing of a scheme. -/
theorem hasScheme_append_slash (before after : String) :
    hasScheme (before ++ "/" ++ after) = hasScheme before := by
  have hslash : isSchemeChar '/' = false := by decide
  have htoList : (before ++ "/" ++ after).toList = before.toList ++ '/' :: after.toList := by
    simp [String.toList_append]
  unfold hasScheme
  rw [htoList]
  cases before.toList with
  | nil => rfl
  | cons c rest =>
      have htake : (rest ++ '/' :: after.toList).takeWhile isSchemeChar =
          rest.takeWhile isSchemeChar := by
        rw [List.takeWhile_append, List.takeWhile_cons_of_neg (by simp [hslash]), List.append_nil]
        split
        · rename_i hall
          exact ((List.takeWhile_prefix _).eq_of_length hall).symm
        · rfl
      have hdrop : (((rest ++ '/' :: after.toList).dropWhile isSchemeChar).head? == some ':') =
          ((rest.dropWhile isSchemeChar).head? == some ':') := by
        rw [List.dropWhile_append, List.dropWhile_cons_of_neg (by simp [hslash])]
        cases rest.dropWhile isSchemeChar with
        | nil => rfl
        | cons d more => rfl
      dsimp only [List.cons_append]
      rw [htake, hdrop]

/-- How the text of a location below the directory of another one is made. -/
theorem below_cases (hlast : (FileTree.split location).getLast? = some part) (further : String) :
    below location further = further ∧ location = part ∧ Path.endsInBackslash part = false ∨
      ∃ before after, below location further = before ++ "/" ++ further ∧
        location = before ++ after ∧ (after = "" ∧ Path.endsInBackslash part = true ∨
          after = "/" ++ part ∧ Path.endsInBackslash part = false) := by
  obtain ⟨hslashless, hlocation⟩ := Path.eq_of_getLast?_split hlast
  have happend : ∀ names : List String, names ≠ [] →
      "/".intercalate (names ++ [further]) = "/".intercalate names ++ "/" ++ further := by
    intro names hnames
    rw [String.intercalate_append_of_ne_nil hnames (List.cons_ne_nil _ _),
      String.intercalate_singleton]
  unfold below
  dsimp only
  rw [hlast, Option.any_some]
  cases hback : Path.endsInBackslash part with
  | true =>
      rw [if_pos rfl]
      refine .inr ⟨location, "", ?_, String.append_empty.symm, .inl ⟨rfl, rfl⟩⟩
      rw [happend _ (FileTree.split_ne_nil _), FileTree.intercalate_split]
  | false =>
      rw [if_neg nofun]
      rcases hlocation with rfl | ⟨before, rfl, hsplit⟩
      · rw [FileTree.split_of_slashless hslashless]
        exact .inl ⟨String.intercalate_singleton, rfl, rfl⟩
      · rw [hsplit, List.dropLast_concat]
        refine .inr ⟨before, "/" ++ part, ?_, String.append_assoc, .inr ⟨rfl, rfl⟩⟩
        rw [happend _ (FileTree.split_ne_nil _), FileTree.intercalate_split]

/-- The components of a location below the directory of another one. -/
theorem components_below (hlast : (FileTree.split location).getLast? = some part)
    (hpart : Path.Ordinary part) (further : String) :
    Path.components (below location further) =
      (Path.directoryOf location).parts ++ Path.components further := by
  obtain ⟨init, hinit, hdirectory⟩ := Path.directoryOf_eq hlast hpart
  have happend : ∀ before after : String, Path.components (before ++ "/" ++ after) =
      Path.components before ++ Path.components after := fun before after => by
    rw [Path.components_eq, FileTree.split_append, List.filter_append]
    rfl
  have hsingle : Path.components part = [part] := by
    rw [Path.components_eq, FileTree.split_of_slashless (Path.eq_of_getLast?_split hlast).1]
    exact List.filter_cons_of_pos hpart.1
  rw [hdirectory]
  rcases below_cases hlast further with
    ⟨hbelow, hlocation, hback⟩ | ⟨before, after, hbelow, hlocation, ⟨rfl, hback⟩ | ⟨rfl, hback⟩⟩
  · rw [hlocation, hsingle] at hinit
    have hnil : init = [] := by simpa using hinit
    rw [hbelow, hback, hnil]
    rfl
  · rw [String.append_empty] at hlocation
    rw [hbelow, happend, ← hlocation, hinit, hback]
    rfl
  · rw [hlocation, ← String.append_assoc, happend, hsingle, List.append_left_inj] at hinit
    rw [hbelow, happend, hinit, hback]
    exact congrArg (· ++ _) (List.append_nil _).symm

/-- A location below the directory of a relative one is relative. -/
theorem relative_below (hlast : (FileTree.split location).getLast? = some part)
    (hpart : Path.Ordinary part) (h : Relative location) (hfurther : Relative further) :
    Relative (below location further) := by
  rcases below_cases hlast further with ⟨hbelow, -, -⟩ | ⟨before, after, hbelow, hlocation, hafter⟩
  · rw [hbelow]
    exact hfurther
  · have hbefore : before ≠ "" := by
      rintro rfl
      rw [String.empty_append] at hlocation
      rcases hafter with ⟨rfl, -⟩ | ⟨rfl, -⟩
      · rw [hlocation, FileTree.split_of_slashless (by decide)] at hlast
        rw [← Option.some.inj hlast] at hpart
        exact absurd hpart.1 (by decide)
      · have habsolute := h.relative
        rw [hlocation, FileTree.isAbsolute_append (by decide)] at habsolute
        exact absurd habsolute (by decide)
    rw [hbelow]
    refine ⟨?_, ?_, ?_⟩
    · rw [hasScheme_append_slash, ← h.schemeless, hlocation]
      rcases hafter with ⟨rfl, -⟩ | ⟨rfl, -⟩
      · rw [String.append_empty]
      · rw [← String.append_assoc, hasScheme_append_slash]
    · rw [String.append_assoc, FileTree.isAbsolute_append hbefore, ← h.relative, hlocation,
        FileTree.isAbsolute_append hbefore]
    · -- it begins like the one location and ends like the other
      have hnil : before.toList ≠ [] := fun hnil => hbefore (String.toList_eq_nil_iff.1 hnil)
      have hbegin := (Text.trim_eq_self_iff location).1 h.trimmed
      have hend := (Text.trim_eq_self_iff further).1 hfurther.trimmed
      rw [hlocation, String.toList_append] at hbegin
      rw [Text.trim_eq_self_iff, String.toList_append, String.toList_append]
      intro hne
      constructor
      · have hhead := (hbegin (List.append_ne_nil_of_left_ne_nil hnil _)).1
        rw [List.head_append_of_ne_nil hnil] at hhead
        rw [List.head_append_of_ne_nil (List.append_ne_nil_of_left_ne_nil hnil _),
          List.head_append_of_ne_nil hnil, hhead]
      · by_cases hempty : further.toList = []
        · simp only [hempty, List.append_nil]
          rw [List.getLast_append_of_ne_nil _ (by decide)]
          decide
        · rw [List.getLast_append_of_ne_nil _ hempty]
          exact (hend hempty).2

/-- Locations are joined to one locator if they resolve to the same components. -/
theorem join_eq_join_iff (hbase : ∀ b, base = some b → hasScheme b = false) (h : Relative location)
    {base' : Option String} {location' : String}
    (hbase' : ∀ b, base' = some b → hasScheme b = false) (h' : Relative location') :
    join location base = join location' base' ↔
      (Path.directoryOf (base'.getD "")).absolute = (Path.directoryOf (base.getD "")).absolute ∧
        resolved base location = resolved base' location' := by
  constructor
  · intro heq
    have hread := ofString_join hbase' h'
    rw [← heq, ofString_join hbase h, Path.mk.injEq] at hread
    exact ⟨hread.1.symm, hread.2⟩
  · rintro ⟨habsolute, hparts⟩
    rw [join_eq hbase h, join_eq hbase' h', normalise_append, normalise_append, habsolute, hparts]

/-- Joining a relative location to a path resolves the components of the
directory and those of the location: they resolve to one list, which the joined
locator spells and is read back as, and nothing is left in it to resolve.
Other locations have this locator if they resolve to the same list.  A further
location, joined to this locator, leads where it leads when it is put behind the
directory of this location first.  A locator that ends in `/` or in `.` does not
end in an ordinary component. -/
theorem join_resolves (hbase : ∀ b, base = some b → hasScheme b = false) (h : Relative location) :
    let directory := Path.directoryOf (base.getD "")
    ∃ parts,
      (∀ result, Path.Resolves directory.absolute
        (directory.parts ++ FileTree.split location) result ↔ result = parts) ∧
      join location base = Path.text ⟨directory.absolute, parts⟩ ∧
      Path.ofString (join location base) = ⟨directory.absolute, parts⟩ ∧
      Path.Led directory.absolute parts ∧
      Path.IsNormal (join location base) ∧
      (∀ base' location', (∀ b, base' = some b → hasScheme b = false) → Relative location' →
        (join location base = join location' base' ↔
          (Path.directoryOf (base'.getD "")).absolute = directory.absolute ∧
            Path.Resolves directory.absolute
              ((Path.directoryOf (base'.getD "")).parts ++ FileTree.split location') parts)) ∧
      ∀ part further, (FileTree.split location).getLast? = some part → Path.Ordinary part →
        hasScheme (join location base) = false → Relative further →
        Relative (below location further) ∧
          Path.components (below location further) =
            (Path.directoryOf location).parts ++ Path.components further ∧
          ∀ combined, Relative combined →
            Path.components combined = Path.components (below location further) →
            join further (some (join location base)) = join combined base := by
  refine ⟨resolved base location, fun result => Path.resolves_iff, ?_, ofString_join hbase h,
    Path.led_resolution _, ?_, fun base' location' hbase' h' => ?_,
    fun part further hlast hpart hscheme hfurther => ?_⟩
  · rw [join_eq hbase h, normalise_append]
  · rw [join_eq hbase h]
    exact Path.isNormal_text ((Path.clean_directoryOf _).append location)
  · rw [join_eq_join_iff hbase h hbase' h']
    refine and_congr_right fun habsolute => ?_
    rw [← habsolute]
    exact Path.resolves_iff.symm
  · have hcomponents := components_below hlast hpart further
    exact ⟨relative_below hlast hpart h hfurther, hcomponents, fun combined hcombined heq =>
      join_join hbase h hlast hpart hscheme hfurther hcombined (heq.trans hcomponents)⟩

/-- Two locations, one after the other, from a document in `dir/sub`. -/
theorem join_resolves_up :
    (∀ result, Path.Resolves false (["dir", "sub"] ++ ["..", "x", ".", "c.xsd"]) result ↔
      result = ["dir", "x", "c.xsd"]) ∧
    join "../x/./c.xsd" (some "dir/sub/a.xsd") = "dir/x/c.xsd" ∧
    join "../d.xsd" (some (join "../x/./c.xsd" (some "dir/sub/a.xsd"))) =
      join "../x/./../d.xsd" (some "dir/sub/a.xsd") := by
  have hbase : ∀ b, some "dir/sub/a.xsd" = some b → hasScheme b = false := by
    rintro b ⟨⟩
    decide
  obtain ⟨parts, hresolves, hjoin, hread, -, -, -, hfurther⟩ :=
    join_resolves hbase ⟨(by decide : hasScheme "../x/./c.xsd" = false), by decide, by decide⟩
  have hparts := (hresolves ["dir", "x", "c.xsd"]).1 (Path.resolves_iff.2 (by decide))
  obtain ⟨-, -, hcombined⟩ := hfurther "c.xsd" "../d.xsd" (by decide) ⟨by decide, by decide⟩
    (by decide) ⟨by decide, by decide, by decide⟩
  subst hparts
  exact ⟨hresolves, hjoin.trans (by decide),
    hcombined _ ⟨by decide, by decide, by decide⟩ (by decide)⟩

end Locator

end XmlSchema
