import XmlSchema.Locator.Join

/-!
# Normal paths

A normal path has no component that could cancel another one.  Normalising ends
in a normal path, and a normal path is read back from its text.  So a location
that is joined to a path has the one locator of its normal path.
-/

namespace XmlSchema

/-- Splitting at a character is splitting a list. -/
theorem Text.splitOnChar_eq (sep : Char) (cs : List Char) :
    Text.splitOnChar sep cs = cs.splitOn sep := by
  induction cs with
  | nil => rfl
  | cons c rest ih =>
      unfold Text.splitOnChar
      rw [ih, List.splitOn_eq_splitOnP, List.splitOn_eq_splitOnP,
        List.splitOnP_cons_eq_if_modifyHead]
      by_cases hc : c = sep
      · rw [if_pos hc, if_pos (by simp [hc])]
      · rw [if_neg hc, if_neg (by simp [hc])]
        obtain ⟨w, ws, hsplit⟩ := List.exists_cons_of_ne_nil
          (List.splitOnP_ne_nil (· == sep) rest)
        rw [hsplit]
        rfl

/-- What stands between two separators has none. -/
theorem Text.not_mem_of_mem_splitOnChar {sep : Char} {cs w : List Char}
    (h : w ∈ Text.splitOnChar sep cs) : sep ∉ w := by
  induction cs generalizing w with
  | nil =>
      rw [List.mem_singleton.1 h]
      exact List.not_mem_nil
  | cons c rest ih =>
      unfold Text.splitOnChar at h
      split at h
      · rcases List.mem_cons.1 h with rfl | h
        · exact List.not_mem_nil
        · exact ih h
      · rename_i hc
        split at h
        · rw [List.mem_singleton.1 h, List.mem_singleton]
          exact Ne.symm hc
        · rename_i v vs hrest
          rw [hrest] at ih
          rcases List.mem_cons.1 h with rfl | h
          · exact List.not_mem_cons_of_ne_of_not_mem (Ne.symm hc) (ih List.mem_cons_self)
          · exact ih (List.mem_cons_of_mem _ h)

namespace Path

/-- A component that counts and names one thing. -/
structure IsPart (part : String) : Prop where
  ne_empty : part ≠ ""
  ne_dot : part ≠ "."
  slashless : '/' ∉ part.toList

/-- A path of components that count. -/
def Clean (p : Path) : Prop := ∀ part ∈ p.parts, IsPart part

/-- A normalised path in reverse: `..` stands before nothing else, and not at
all in an absolute path. -/
def Settled (absolute : Bool) : List String → Prop
  | [] => True
  | part :: rest => Settled absolute rest ∧ (part = ".." → absolute = false ∧ ∀ q ∈ rest, q = "..")

/-- A text is the text of its normal path. -/
def IsNormal (s : String) : Prop := (ofString s).normalise.text = s

variable {absolute : Bool} {p : Path}

theorem isPart_of_mem_components {s part : String} (h : part ∈ components s) : IsPart part := by
  unfold components at h
  rw [List.mem_filter, List.mem_map] at h
  obtain ⟨⟨cs, hcs, rfl⟩, hfilter⟩ := h
  simp only [Bool.and_eq_true, bne_iff_ne, ne_eq] at hfilter
  refine ⟨hfilter.1, hfilter.2, ?_⟩
  rw [String.toList_ofList]
  exact Text.not_mem_of_mem_splitOnChar hcs

theorem clean_ofString (s : String) : (ofString s).Clean := fun _ => isPart_of_mem_components

theorem clean_directoryOf (s : String) : (directoryOf s).Clean := by
  unfold directoryOf
  dsimp only
  split
  · exact clean_ofString s
  · exact clean_ofString s
  · split
    · exact List.forall_mem_nil _
    · exact fun part hpart => clean_ofString s part (List.dropLast_subset _ hpart)

theorem Clean.append (h : p.Clean) (location : String) : (p.append location).Clean := by
  intro part hpart
  rcases List.mem_append.1 hpart with hpart | hpart
  · exact h part hpart
  · exact isPart_of_mem_components hpart

theorem settled_step {stack : List String} (h : Settled absolute stack) (part : String) :
    Settled absolute (step absolute stack part) := by
  unfold step
  by_cases hpart : part = ".."
  · rw [if_pos hpart]
    match stack with
    | [] =>
        cases absolute with
        | true => trivial
        | false => exact ⟨trivial, fun _ => ⟨rfl, List.forall_mem_nil _⟩⟩
    | top :: rest =>
        dsimp only
        split
        · rename_i htop
          obtain ⟨hrelative, hrest⟩ := h.2 htop
          exact ⟨h, fun _ => ⟨hrelative, List.forall_mem_cons.2 ⟨htop, hrest⟩⟩⟩
        · exact h.1
  · rw [if_neg hpart]
    exact ⟨h, fun heq => absurd heq hpart⟩

theorem step_subset (stack : List String) (part : String) :
    step absolute stack part ⊆ part :: stack := by
  unfold step
  split
  · rename_i hpart
    subst hpart
    match stack with
    | [] => cases absolute <;> simp
    | top :: rest =>
        dsimp only
        split
        · exact List.Subset.refl _
        · exact fun q hq => List.mem_cons_of_mem _ (List.mem_cons_of_mem _ hq)
  · exact List.Subset.refl _

/-- A component that settles on a stack is put on it. -/
theorem step_of_settled {stack : List String} {part : String}
    (h : Settled absolute (part :: stack)) : step absolute stack part = part :: stack := by
  unfold step
  by_cases hpart : part = ".."
  · obtain ⟨rfl, hstack⟩ := h.2 hpart
    subst hpart
    rw [if_pos rfl]
    match stack with
    | [] => rfl
    | top :: rest => exact if_pos (hstack top List.mem_cons_self)
  · rw [if_neg hpart]

theorem foldl_step_settled (parts : List String) {stack : List String}
    (h : Settled absolute stack) : Settled absolute (parts.foldl (step absolute) stack) := by
  induction parts generalizing stack with
  | nil => exact h
  | cons part rest ih => exact ih (settled_step h part)

theorem foldl_step_subset (parts stack : List String) :
    parts.foldl (step absolute) stack ⊆ parts ++ stack := by
  induction parts generalizing stack with
  | nil => exact List.Subset.refl _
  | cons part rest ih =>
      intro q hq
      rcases List.mem_append.1 (ih _ hq) with hq | hq
      · exact List.mem_cons_of_mem _ (List.mem_append_left _ hq)
      · rcases List.mem_cons.1 (step_subset stack part hq) with rfl | hq
        · exact List.mem_cons_self
        · exact List.mem_cons_of_mem _ (List.mem_append_right _ hq)

theorem foldl_step_reverse {stack : List String} (h : Settled absolute stack) :
    stack.reverse.foldl (step absolute) [] = stack := by
  induction stack with
  | nil => rfl
  | cons part rest ih =>
      rw [List.reverse_cons, List.foldl_append, ih h.1]
      exact step_of_settled h

theorem clean_normalise (h : p.Clean) : p.normalise.Clean := by
  intro part hpart
  have hmem := foldl_step_subset p.parts [] (List.mem_reverse.1 hpart)
  rw [List.append_nil] at hmem
  exact h part hmem

/-- Nothing is left to resolve in a normalised path. -/
theorem normalise_normalise (p : Path) : p.normalise.normalise = p.normalise := by
  have hsettled : Settled p.absolute (p.parts.foldl (step p.absolute) []) :=
    foldl_step_settled p.parts (show Settled p.absolute [] from trivial)
  unfold normalise
  dsimp only
  rw [foldl_step_reverse hsettled]

/-- Components that count are read back from between slashes. -/
theorem split_intercalate {parts : List String} (h : ∀ part ∈ parts, IsPart part) :
    ((Text.splitOnChar '/' (['/'].intercalate (parts.map String.toList))).map String.ofList).filter
      (fun part => part != "" && part != ".") = parts := by
  cases parts with
  | nil => rfl
  | cons part rest =>
      have hslashless : ∀ cs ∈ (part :: rest).map String.toList, '/' ∉ cs := by
        intro cs hcs
        obtain ⟨q, hq, rfl⟩ := List.mem_map.1 hcs
        exact (h q hq).slashless
      have hofList : String.ofList ∘ String.toList = id := funext fun q => String.ofList_toList
      rw [Text.splitOnChar_eq, List.splitOn_intercalate '/' hslashless (List.cons_ne_nil _ _),
        List.map_map, hofList, List.map_id, List.filter_eq_self]
      intro q hq
      simp [(h q hq).ne_empty, (h q hq).ne_dot]

theorem toList_text (p : Path) :
    p.text.toList =
      (if p.absolute then ['/'] else []) ++ ['/'].intercalate (p.parts.map String.toList) := by
  unfold text
  rw [String.toList_append, String.toList_intercalate]
  cases p.absolute <;> rfl

theorem components_text (h : p.Clean) : components p.text = p.parts := by
  unfold components
  rw [toList_text]
  cases p.absolute with
  | false => exact split_intercalate h
  | true => exact split_intercalate h

theorem isAbsolute_text (h : p.Clean) : isAbsolute p.text = p.absolute := by
  unfold isAbsolute
  rw [toList_text]
  cases p.absolute with
  | true => rfl
  | false =>
      cases hparts : p.parts with
      | nil => rfl
      | cons part rest =>
          have hpart : IsPart part := h part (hparts ▸ List.mem_cons_self)
          have hcs : part.toList ≠ [] := fun hnil => hpart.ne_empty (String.toList_eq_nil_iff.1 hnil)
          obtain ⟨c, cs, hpartList⟩ := List.exists_cons_of_ne_nil hcs
          have hc : c ≠ '/' := by
            rintro rfl
            exact hpart.slashless (hpartList ▸ List.mem_cons_self)
          cases rest <;> simp [List.intercalate, hpartList, hc]

/-- A path of components that count is read back from its text. -/
theorem ofString_text (h : p.Clean) : ofString p.text = p := by
  unfold ofString
  rw [isAbsolute_text h, components_text h]

theorem isNormal_text (h : p.Clean) : IsNormal p.normalise.text := by
  unfold IsNormal
  rw [ofString_text (clean_normalise h), normalise_normalise]

theorem IsNormal.eq {s t : String} (hs : IsNormal s) (ht : IsNormal t)
    (h : (ofString s).normalise = (ofString t).normalise) : s = t :=
  hs.symm.trans ((congrArg text h).trans ht)

end Path

/-- A location that is joined to a path becomes normal, unless it stands for
itself. -/
theorem Locator.join_isNormal {base : Option String}
    (hbase : ∀ b, base = some b → Locator.hasScheme b = false) (location : String) :
    Path.IsNormal (Locator.join location base) ∨
      Locator.join location base = Text.trim location := by
  unfold Locator.join
  dsimp only
  split
  · exact .inr rfl
  · split
    · exact .inl (Path.isNormal_text (Path.clean_ofString _))
    · rename_i b hb
      rw [hbase b (Option.filter_eq_some_iff.1 hb).1]
      exact .inl (Path.isNormal_text ((Path.clean_directoryOf b).append _))

end XmlSchema
