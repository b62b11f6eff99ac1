import Mathlib.Logic.Relation
import XmlSchema.Proofs.Resolution.Change

/-!
# Plots of compositions

Which schemas a composition registers, under which keys, and where their
references lead depends on little of each document: on its root, on its target
namespace and on its references to other documents, in order.  A plot is drawn
from that alone.  It depends on nothing but the answers to the requests that are
made, and it is as deep as the sheets that it adds at the most.
-/

namespace XmlSchema

/-- A reference to another document without what is written inside of it. -/
def ExternalRef.bare (e : ExternalRef) : ExternalRef :=
  { kind := e.kind, location := e.location, namespaceName := e.namespaceName, target := e.target }

/-- A reference that has not led anywhere. -/
def ExternalRef.untargeted (e : ExternalRef) : ExternalRef := { e with target := none }

/-- What a composition depends on in a document. -/
structure Skeleton where
  isSchema : Bool
  target : Option String
  references : List ExternalRef

/-- The key under which a document is registered. -/
def Skeleton.keyAt (k : Skeleton) (locator : String) (inherited : Option String) : SchemaKey :=
  ⟨(k.target <|> inherited).getD "", locator⟩

/-- What a composition makes of a document, components aside. -/
structure Sheet where
  number : Nat
  builtin : Bool
  key : SchemaKey
  target : Option String
  parent : Option SchemaKey
  links : List ExternalRef

/-- A sheet shows the document of a schema. -/
structure Sheet.Shows (s : Sheet) (locator : String) (k : Skeleton) : Prop where
  isSchema_eq : k.isSchema = true
  builtin_eq : s.builtin = false
  key_eq : ∃ inherited, s.key = k.keyAt locator inherited
  target_eq : s.target = k.target
  links_eq : s.links.map ExternalRef.untargeted = k.references.map ExternalRef.untargeted

/-- The schemas of a composition, with the requests that it has made. -/
structure Plot where
  sheets : List Sheet
  asked : List Request

/-- Where requests lead, unless they fail: nowhere or to a document at a
locator. -/
abbrev Guide := Request → Option (Option (String × Skeleton))

namespace Plot

/-- The number of the sheet with a key. -/
def number? (p : Plot) (key : SchemaKey) : Option Nat :=
  (p.sheets.find? (·.key == key)).map Sheet.number

/-- Make a request. -/
def ask (p : Plot) (r : Request) : Plot := { p with asked := p.asked ++ [r] }

/-- Begin a new sheet. -/
def begin (p : Plot) (key : SchemaKey) (target : Option String) (parent : Option SchemaKey) :
    Plot :=
  { p with
    sheets := p.sheets ++
      [{ number := p.sheets.length, builtin := false, key, target, parent, links := [] }] }

/-- List a reference on a sheet. -/
def link (p : Plot) (n : Nat) (e : ExternalRef) : Plot :=
  { p with sheets := p.sheets.modify n fun s => { s with links := s.links ++ [e] } }

/-- How a document is drawn: at its locator, for the sheet that refers to it,
with the namespace that it inherits. -/
abbrev Draw :=
  String → Skeleton → Option SchemaKey → Option String → Plot → Option (Nat × Plot)

/-- Follow a request, and draw the document that it leads to when it is new. -/
def follow (guide : Guide) (draw : Draw) (r : Request) (parent : Option SchemaKey)
    (inherited : Option String) (p : Plot) : Option (Option Nat × Plot) :=
  match guide r with
  | none => none
  | some none => some (none, p.ask r)
  | some (some (locator, k)) =>
      match (p.ask r).number? (k.keyAt locator inherited) with
      | some n => some (some n, p.ask r)
      | none => (draw locator k parent inherited (p.ask r)).map (Prod.map some id)

/-- Follow a reference of a sheet. -/
def refer (guide : Guide) (draw : Draw) (key : SchemaKey) (n : Nat) (p : Plot)
    (e : ExternalRef) : Option Plot :=
  match e.location with
  | none => some (p.link n { e with target := none })
  | some l =>
      (follow guide draw (e.requestIn key l) (some key) (e.inheritedIn key) p).map fun found =>
        found.2.link n { e with target := found.1 }

/-- Draw a document and all that it refers to. -/
def draw (guide : Guide) : Nat → Draw
  | 0, _, _, _, _, _ => none
  | fuel + 1, locator, k, parent, inherited, p =>
      let key := k.keyAt locator inherited
      if k.isSchema && (p.number? key).isNone then
        (k.references.foldlM (refer guide (draw guide fuel) key p.sheets.length)
          (p.begin key k.target parent)).map (p.sheets.length, ·)
      else none

/-- One sheet refers to another one. -/
def Links (p : Plot) (n m : Nat) : Prop :=
  ∃ s, p.sheets[n]? = some s ∧ ∃ e ∈ s.links, e.target = some m

/-- A document is known from the answer to a request. -/
def Known (p : Plot) (guide : Guide) (locator : String) (k : Skeleton) : Prop :=
  ∃ r ∈ p.asked, guide r = some (some (locator, k))

/-- A document has a sheet of its own. -/
def Has (p : Plot) (locator : String) (k : Skeleton) : Prop :=
  ∃ (n : Nat) (s : Sheet), p.sheets[n]? = some s ∧ ∃ inherited, s.key = k.keyAt locator inherited

/-- All requests but some earlier ones are answered, and the documents that they
lead to have sheets. -/
def Answered (p : Plot) (guide : Guide) (earlier : List Request) : Prop :=
  ∀ r ∈ p.asked, r ∈ earlier ∨
    ∃ answer, guide r = some answer ∧ ∀ locator k, answer = some (locator, k) → p.Has locator k

/-- Sheets stay where they are, and what they refer to. -/
structure Persists (p p' : Plot) : Prop where
  sheets : ∀ (n : Nat) (s : Sheet), p.sheets[n]? = some s →
    ∃ s', p'.sheets[n]? = some s' ∧ s'.key = s.key ∧ s.links ⊆ s'.links
  asked : p.asked ⊆ p'.asked

/-- What following a request adds to a plot.  A given document is one that is
being drawn already. -/
structure Follows (guide : Guide) (given : String → Skeleton → Prop) (p : Plot)
    (found : Option Nat) (p' : Plot) : Prop where
  earlier : p.sheets <+: p'.sheets
  asked : p.asked ⊆ p'.asked
  shown : ∀ (n : Nat) (s : Sheet), p.sheets.length ≤ n → p'.sheets[n]? = some s →
    ∃ locator k, (given locator k ∨ p'.Known guide locator k) ∧ s.Shows locator k
  answered : p'.Answered guide p.asked
  linked : ∀ n, p.sheets.length ≤ n → n < p'.sheets.length →
    ∃ m, found = some m ∧ Relation.ReflTransGen p'.Links m n

/-- What following references of a sheet adds to a plot. -/
structure Refers (guide : Guide) (n : Nat) (references : List ExternalRef) (p p' : Plot) :
    Prop where
  length_le : p.sheets.length ≤ p'.sheets.length
  others : ∀ m < p.sheets.length, m ≠ n → p'.sheets[m]? = p.sheets[m]?
  own : ∃ more, more.map ExternalRef.untargeted = references.map ExternalRef.untargeted ∧
    p'.sheets[n]? = (p.sheets[n]?).map fun s => { s with links := s.links ++ more }
  asked : p.asked ⊆ p'.asked
  shown : ∀ (m : Nat) (s : Sheet), p.sheets.length ≤ m → p'.sheets[m]? = some s →
    ∃ locator k, p'.Known guide locator k ∧ s.Shows locator k
  answered : p'.Answered guide p.asked
  linked : ∀ m, p.sheets.length ≤ m → m < p'.sheets.length →
    Relation.ReflTransGen p'.Links n m

section Lemmas

variable {guide : Guide} {given : String → Skeleton → Prop} {p p' p'' : Plot} {n : Nat}
  {found : Option Nat} {references more : List ExternalRef} {earlier : List Request}
  {locator : String} {k : Skeleton}

theorem Persists.refl (p : Plot) : p.Persists p :=
  ⟨fun _ s hs => ⟨s, hs, rfl, List.Subset.refl _⟩, List.Subset.refl _⟩

theorem Persists.trans (h : p.Persists p') (h' : p'.Persists p'') : p.Persists p'' where
  sheets n s hs := by
    obtain ⟨s', hs', hkey', hlinks'⟩ := h.sheets n s hs
    obtain ⟨s'', hs'', hkey'', hlinks''⟩ := h'.sheets n s' hs'
    exact ⟨s'', hs'', hkey''.trans hkey', List.Subset.trans hlinks' hlinks''⟩
  asked := List.Subset.trans h.asked h'.asked

theorem Persists.links (h : p.Persists p') {m : Nat} (hlinks : p.Links n m) : p'.Links n m := by
  obtain ⟨s, hs, e, he, htarget⟩ := hlinks
  obtain ⟨s', hs', -, hsub⟩ := h.sheets n s hs
  exact ⟨s', hs', e, hsub he, htarget⟩

theorem Persists.reaches (h : p.Persists p') {m : Nat}
    (hreach : Relation.ReflTransGen p.Links n m) : Relation.ReflTransGen p'.Links n m :=
  hreach.lift id fun _ _ => h.links

theorem Persists.known (h : p.Persists p') (hk : p.Known guide locator k) :
    p'.Known guide locator k := by
  obtain ⟨r, hr, hguide⟩ := hk
  exact ⟨r, h.asked hr, hguide⟩

theorem Persists.has (h : p.Persists p') (hk : p.Has locator k) : p'.Has locator k := by
  obtain ⟨n, s, hs, inherited, hkey⟩ := hk
  obtain ⟨s', hs', hkey', -⟩ := h.sheets n s hs
  exact ⟨n, s', hs', inherited, hkey'.trans hkey⟩

/-- What has been answered stays so, and answers to later requests are added. -/
theorem Persists.answered (h : p.Persists p') (hp : p.Answered guide earlier)
    (hp' : p'.Answered guide p.asked) : p'.Answered guide earlier := by
  intro r hr
  rcases hp' r hr with hr | hanswer
  · refine (hp r hr).imp_right ?_
    rintro ⟨answer, hguide, hhas⟩
    exact ⟨answer, hguide, fun locator k hk => h.has (hhas locator k hk)⟩
  · exact .inr hanswer

theorem Follows.persists (h : Follows guide given p found p') : p.Persists p' where
  sheets n s hs := by
    obtain ⟨more, hmore⟩ := h.earlier
    refine ⟨s, ?_, rfl, List.Subset.refl _⟩
    rw [← hmore, List.getElem?_append_left (List.getElem?_eq_some_iff.1 hs).1, hs]
  asked := h.asked

theorem Refers.persists (h : Refers guide n references p p') : p.Persists p' where
  sheets m s hs := by
    by_cases hm : m = n
    · obtain ⟨more, -, hown⟩ := h.own
      subst hm
      rw [hs] at hown
      exact ⟨_, hown, rfl, List.subset_append_left _ _⟩
    · have hlt := (List.getElem?_eq_some_iff.1 hs).1
      exact ⟨s, (h.others m hlt hm).trans hs, rfl, List.Subset.refl _⟩
  asked := h.asked

theorem Refers.refl (guide : Guide) (n : Nat) (p : Plot) : Refers guide n [] p p where
  length_le := Nat.le_refl _
  others _ _ _ := rfl
  own := ⟨[], rfl, by cases p.sheets[n]? <;> simp⟩
  asked := List.Subset.refl _
  shown m s hm hs := absurd (List.getElem?_eq_some_iff.1 hs).1 (Nat.not_lt.2 hm)
  answered _ hr := .inl hr
  linked m hm hlt := absurd hlt (Nat.not_lt.2 hm)

theorem Refers.trans (hn : n < p.sheets.length) (h : Refers guide n references p p')
    (h' : Refers guide n more p' p'') : Refers guide n (references ++ more) p p'' where
  length_le := Nat.le_trans h.length_le h'.length_le
  others m hm hne :=
    (h'.others m (Nat.lt_of_lt_of_le hm h.length_le) hne).trans (h.others m hm hne)
  own := by
    obtain ⟨first, hfirst, hown⟩ := h.own
    obtain ⟨second, hsecond, hown'⟩ := h'.own
    refine ⟨first ++ second, by rw [List.map_append, List.map_append, hfirst, hsecond], ?_⟩
    rw [hown', hown]
    cases p.sheets[n]? <;> simp [List.append_assoc]
  asked := List.Subset.trans h.asked h'.asked
  shown m s hm hs := by
    by_cases hlt : m < p'.sheets.length
    · have hne : m ≠ n := Nat.ne_of_gt (Nat.lt_of_lt_of_le hn hm)
      rw [h'.others m hlt hne] at hs
      obtain ⟨locator, k, hknown, hshows⟩ := h.shown m s hm hs
      exact ⟨locator, k, h'.persists.known hknown, hshows⟩
    · exact h'.shown m s (Nat.le_of_not_lt hlt) hs
  answered := h'.persists.answered h.answered h'.answered
  linked m hm hlt := by
    by_cases hmid : m < p'.sheets.length
    · exact h'.persists.reaches (h.linked m hm hmid)
    · exact h'.linked m (Nat.le_of_not_lt hmid) hlt

/-- Making a request that leads to no new document. -/
theorem Follows.of_ask {r : Request} {answer : Option (String × Skeleton)}
    (hguide : guide r = some answer) (hhas : ∀ locator k, answer = some (locator, k) →
      p.Has locator k) : Follows guide given p found (p.ask r) where
  earlier := List.prefix_refl _
  asked := List.subset_append_left _ _
  shown m s hm hs := absurd (List.getElem?_eq_some_iff.1 hs).1 (Nat.not_lt.2 hm)
  answered r' hr' := by
    rcases List.mem_append.1 hr' with hr' | hr'
    · exact .inl hr'
    · rw [List.mem_singleton.1 hr']
      exact .inr ⟨answer, hguide, hhas⟩
  linked m hm hlt := absurd hlt (Nat.not_lt.2 hm)

/-- Drawing a document adds a sheet for it and what it refers to. -/
def Draws (guide : Guide) (draw : Draw) : Prop :=
  ∀ locator k parent inherited p n p', draw locator k parent inherited p = some (n, p') →
    Follows guide (fun l k' => l = locator ∧ k' = k) p (some n) p' ∧ p'.Has locator k

theorem has_of_number? {inherited : Option String} (h : p.number? (k.keyAt locator inherited) =
    some n) : p.Has locator k := by
  obtain ⟨s, hs, -⟩ := Option.map_eq_some_iff.1 h
  obtain ⟨i, hi⟩ := List.getElem?_of_mem (List.mem_of_find?_eq_some hs)
  exact ⟨i, s, hi, inherited, by simpa using List.find?_some hs⟩

theorem follow_follows {draw : Draw} (hdraw : Draws guide draw) {r : Request}
    {parent : Option SchemaKey} {inherited : Option String}
    (h : follow guide draw r parent inherited p = some (found, p')) :
    Follows guide (fun _ _ => False) p found p' := by
  unfold follow at h
  split at h
  · cases h
  · rename_i hguide
    cases h
    exact .of_ask hguide nofun
  · rename_i locator k hguide
    split at h
    · rename_i m hm
      cases h
      refine .of_ask hguide fun _ _ heq => ?_
      cases heq
      exact has_of_number? hm
    · obtain ⟨⟨m, p₁⟩, hp₁, hmap⟩ := Option.map_eq_some_iff.1 h
      cases hmap
      obtain ⟨hfollows, hhas⟩ := hdraw _ _ _ _ _ _ _ hp₁
      have hasked : r ∈ p₁.asked := hfollows.asked (List.mem_append_right _ List.mem_cons_self)
      refine ⟨hfollows.earlier, List.Subset.trans (List.subset_append_left _ _) hfollows.asked,
        fun n s hn hs => ?_, fun r' hr' => ?_, hfollows.linked⟩
      · obtain ⟨locator', k', hk', hshows⟩ := hfollows.shown n s hn hs
        refine ⟨locator', k', .inr ?_, hshows⟩
        rcases hk' with ⟨rfl, rfl⟩ | hknown
        · exact ⟨r, hasked, hguide⟩
        · exact hknown
      · rcases hfollows.answered r' hr' with hr' | hanswer
        · rcases List.mem_append.1 hr' with hr' | hr'
          · exact .inl hr'
          · rw [List.mem_singleton.1 hr']
            refine .inr ⟨_, hguide, fun _ _ heq => ?_⟩
            cases heq
            exact hhas
        · exact .inr hanswer

theorem getElem?_link (p : Plot) (n : Nat) (e : ExternalRef) (m : Nat) :
    (p.link n e).sheets[m]? = (p.sheets[m]?).map fun s =>
      if n = m then { s with links := s.links ++ [e] } else s :=
  List.getElem?_modify _ _ _ _

theorem length_link (p : Plot) (n : Nat) (e : ExternalRef) :
    (p.link n e).sheets.length = p.sheets.length := List.length_modify _ _ _

/-- A request is followed and what it has led to is listed. -/
theorem Follows.link (hn : n < p.sheets.length)
    (h : Follows guide (fun _ _ => False) p found p') (e : ExternalRef) :
    Refers guide n [e] p (p'.link n { e with target := found }) := by
  have hle : p.sheets.length ≤ p'.sheets.length := h.earlier.length_le
  have hother : ∀ m, m ≠ n → (p'.link n { e with target := found }).sheets[m]? =
      p'.sheets[m]? := by
    intro m hm
    rw [getElem?_link]
    simp [Ne.symm hm]
  have hold : ∀ m < p.sheets.length, p'.sheets[m]? = p.sheets[m]? := by
    intro m hm
    obtain ⟨more, hmore⟩ := h.earlier
    rw [← hmore, List.getElem?_append_left hm]
  have hpersists : p'.Persists (p'.link n { e with target := found }) := by
    refine ⟨fun m s hs => ?_, List.Subset.refl _⟩
    rw [getElem?_link, hs]
    by_cases hm : n = m
    · exact ⟨_, rfl, by simp [hm], by simp [hm]⟩
    · exact ⟨_, rfl, by simp [hm], by simp [hm]⟩
  refine ⟨?_, ?_, ⟨[{ e with target := found }], rfl, ?_⟩, h.asked, ?_, ?_, ?_⟩
  · rw [length_link]
    exact hle
  · intro m hm hne
    rw [hother m hne, hold m hm]
  · rw [getElem?_link, hold n hn]
    simp
  · intro m s hm hs
    rw [hother m (by omega)] at hs
    obtain ⟨locator, k, hknown, hshows⟩ := h.shown m s hm hs
    exact ⟨locator, k, hknown.resolve_left id, hshows⟩
  · exact hpersists.answered h.answered fun _ hr => .inl hr
  · intro m hm hlt
    rw [length_link] at hlt
    obtain ⟨first, rfl, hreach⟩ := h.linked m hm hlt
    obtain ⟨s, hs⟩ : ∃ s, p'.sheets[n]? = some s :=
      ⟨_, List.getElem?_eq_getElem (Nat.lt_of_lt_of_le hn hle)⟩
    refine .head ⟨{ s with links := s.links ++ [{ e with target := some first }] }, ?_, _,
      List.mem_append_right _ List.mem_cons_self, rfl⟩ (hpersists.reaches hreach)
    rw [getElem?_link, hs]
    simp

theorem refer_of_none {draw : Draw} {key : SchemaKey} {e : ExternalRef} (h : e.location = none) :
    refer guide draw key n p e = some (p.link n { e with target := none }) := by
  unfold refer
  rw [h]

theorem refer_of_some {draw : Draw} {key : SchemaKey} {e : ExternalRef} {l : String}
    (h : e.location = some l) :
    refer guide draw key n p e =
      (follow guide draw (e.requestIn key l) (some key) (e.inheritedIn key) p).map fun found =>
        found.2.link n { e with target := found.1 } := by
  unfold refer
  rw [h]

theorem refer_refers {draw : Draw} (hdraw : Draws guide draw) {key : SchemaKey}
    (hn : n < p.sheets.length) {e : ExternalRef} (h : refer guide draw key n p e = some p') :
    Refers guide n [e] p p' := by
  unfold refer at h
  split at h
  · cases h
    refine Follows.link hn ⟨List.prefix_refl _, List.Subset.refl _, ?_, ?_, ?_⟩ e
    · exact fun m s hm hs => absurd (List.getElem?_eq_some_iff.1 hs).1 (Nat.not_lt.2 hm)
    · exact fun _ hr => .inl hr
    · exact fun m hm hlt => absurd hlt (Nat.not_lt.2 hm)
  · obtain ⟨found, hfound, rfl⟩ := Option.map_eq_some_iff.1 h
    exact (follow_follows hdraw hfound).link hn e

theorem foldlM_refers {draw : Draw} (hdraw : Draws guide draw) {key : SchemaKey}
    (hn : n < p.sheets.length)
    (h : references.foldlM (refer guide draw key n) p = some p') :
    Refers guide n references p p' := by
  induction references generalizing p with
  | nil =>
      cases h
      exact .refl guide n _
  | cons e rest ih =>
      obtain ⟨p₁, hp₁, h⟩ := Option.bind_eq_some_iff.1 h
      have hfirst := refer_refers hdraw hn hp₁
      exact hfirst.trans hn (ih (Nat.lt_of_lt_of_le hn hfirst.length_le) h)

/-- Drawing adds sheets that show documents, and that can be reached from the
first of them. -/
theorem draw_draws (guide : Guide) (fuel : Nat) : Draws guide (draw guide fuel) := by
  induction fuel with
  | zero =>
      intro locator k parent inherited p n p' h
      cases h
  | succ fuel ih =>
      intro locator k parent inherited p n p' h
      unfold draw at h
      dsimp only at h
      split at h
      · rename_i hnew
        rw [Bool.and_eq_true] at hnew
        obtain ⟨p₂, hfold, heq⟩ := Option.map_eq_some_iff.1 h
        obtain ⟨rfl, rfl⟩ := Prod.mk.inj heq
        have hlength : (p.begin (k.keyAt locator inherited) k.target parent).sheets.length =
            p.sheets.length + 1 := List.length_append
        have hrefers := foldlM_refers ih (by omega) hfold
        have hle := hrefers.length_le
        have hold : ∀ m < p.sheets.length, p₂.sheets[m]? = p.sheets[m]? := by
          intro m hm
          rw [hrefers.others m (by omega) (Nat.ne_of_lt hm)]
          exact List.getElem?_append_left hm
        obtain ⟨more, hmore, hown⟩ := hrefers.own
        replace hown : p₂.sheets[p.sheets.length]? = some
            ⟨p.sheets.length, false, k.keyAt locator inherited, k.target, parent, more⟩ := by
          rw [hown]
          simp [begin]
        refine ⟨⟨?_, hrefers.asked, fun m s hm hs => ?_, hrefers.answered, fun m hm hlt => ?_⟩,
          _, _, hown, inherited, rfl⟩
        · refine List.prefix_iff_getElem?.2 fun m hm => ?_
          rw [hold m hm, List.getElem?_eq_getElem hm]
        · by_cases hself : m = p.sheets.length
          · subst hself
            cases Option.some.inj (hown.symm.trans hs)
            exact ⟨locator, k, .inl ⟨rfl, rfl⟩, ⟨hnew.1, rfl, ⟨inherited, rfl⟩, rfl, hmore⟩⟩
          · obtain ⟨locator', k', hknown, hshows⟩ := hrefers.shown m s (by omega) hs
            exact ⟨locator', k', .inr hknown, hshows⟩
        · refine ⟨_, rfl, ?_⟩
          by_cases hself : m = p.sheets.length
          · rw [hself]
          · exact hrefers.linked m (by omega) hlt
      · cases h

section Stability

variable {guide' : Guide} {depth : Nat} {d d' : Draw}

/-- What is drawn in one way is drawn in the other as well, under a guide that
gives the same answers, unless it is too deep. -/
def Imitates (guide guide' : Guide) (depth : Nat) (d d' : Draw) : Prop :=
  ∀ locator k parent inherited p n p', d locator k parent inherited p = some (n, p') →
    (∀ r ∈ p'.asked, guide' r = guide r) → p'.sheets.length ≤ p.sheets.length + depth →
    d' locator k parent inherited p = some (n, p')

theorem follow_stable (hd : Draws guide d) (h : Imitates guide guide' depth d d') {r : Request}
    {parent : Option SchemaKey} {inherited : Option String}
    (hfollow : follow guide d r parent inherited p = some (found, p'))
    (hagree : ∀ r ∈ p'.asked, guide' r = guide r)
    (hdepth : p'.sheets.length ≤ p.sheets.length + depth) :
    follow guide' d' r parent inherited p = some (found, p') := by
  have hasked : r ∈ p'.asked := by
    unfold follow at hfollow
    split at hfollow
    · cases hfollow
    · cases hfollow
      exact List.mem_append_right _ List.mem_cons_self
    · split at hfollow
      · cases hfollow
        exact List.mem_append_right _ List.mem_cons_self
      · obtain ⟨⟨n, p₁⟩, hp₁, heq⟩ := Option.map_eq_some_iff.1 hfollow
        cases heq
        exact (hd _ _ _ _ _ _ _ hp₁).1.asked (List.mem_append_right _ List.mem_cons_self)
  unfold follow at hfollow ⊢
  rw [hagree r hasked]
  split at hfollow
  · cases hfollow
  · exact hfollow
  · split at hfollow
    · exact hfollow
    · obtain ⟨⟨n, p₁⟩, hp₁, heq⟩ := Option.map_eq_some_iff.1 hfollow
      cases heq
      rw [h _ _ _ _ _ _ _ hp₁ hagree hdepth]
      rfl

theorem refer_stable (hd : Draws guide d) (h : Imitates guide guide' depth d d')
    {key : SchemaKey} {e : ExternalRef} (hrefer : refer guide d key n p e = some p')
    (hagree : ∀ r ∈ p'.asked, guide' r = guide r)
    (hdepth : p'.sheets.length ≤ p.sheets.length + depth) :
    refer guide' d' key n p e = some p' := by
  unfold refer at hrefer ⊢
  split at hrefer
  · exact hrefer
  · obtain ⟨⟨found, p₁⟩, hp₁, rfl⟩ := Option.map_eq_some_iff.1 hrefer
    rw [length_link] at hdepth
    rw [follow_stable hd h hp₁ hagree hdepth]
    rfl

theorem foldlM_stable (hd : Draws guide d) (h : Imitates guide guide' depth d d')
    {key : SchemaKey} (hn : n < p.sheets.length)
    (hfold : references.foldlM (refer guide d key n) p = some p')
    (hagree : ∀ r ∈ p'.asked, guide' r = guide r)
    (hdepth : p'.sheets.length ≤ p.sheets.length + depth) :
    references.foldlM (refer guide' d' key n) p = some p' := by
  induction references generalizing p with
  | nil => exact hfold
  | cons e rest ih =>
      obtain ⟨p₁, hp₁, hrest⟩ := Option.bind_eq_some_iff.1 hfold
      have hfirst := refer_refers hd hn hp₁
      have hn₁ : n < p₁.sheets.length := Nat.lt_of_lt_of_le hn hfirst.length_le
      have hrefers := foldlM_refers hd hn₁ hrest
      have hle := hfirst.length_le
      have hle' := hrefers.length_le
      rw [List.foldlM_cons, refer_stable hd h hp₁ (fun r hr => hagree r (hrefers.asked hr))
        (by omega)]
      exact ih hn₁ hrest (by omega)

/-- A drawing depends on the answers to the requests that it makes alone, and
every level of it adds a sheet. -/
theorem draw_stable (fuel : Nat) :
    ∀ depth, Imitates guide guide' depth (draw guide fuel) (draw guide' depth) := by
  induction fuel with
  | zero =>
      intro depth locator k parent inherited p n p' h
      cases h
  | succ fuel ih =>
      intro depth locator k parent inherited p n p' h hagree hdepth
      unfold draw at h
      dsimp only at h
      split at h
      · rename_i hnew
        obtain ⟨p₂, hfold, heq⟩ := Option.map_eq_some_iff.1 h
        obtain ⟨rfl, rfl⟩ := Prod.mk.inj heq
        have hlength : (p.begin (k.keyAt locator inherited) k.target parent).sheets.length =
            p.sheets.length + 1 := List.length_append
        have hn : p.sheets.length <
            (p.begin (k.keyAt locator inherited) k.target parent).sheets.length := by omega
        have hle := (foldlM_refers (draw_draws guide fuel) hn hfold).length_le
        obtain ⟨depth, rfl⟩ : ∃ m, depth = m + 1 := ⟨depth - 1, by omega⟩
        unfold draw
        dsimp only
        rw [if_pos hnew, foldlM_stable (draw_draws guide fuel) (ih depth) hn hfold hagree
          (by omega)]
        rfl
      · cases h

end Stability

end Lemmas

end Plot

end XmlSchema
