import XmlSchema.Proofs.Document.Prefixes

/-!
# Prefixes that are asked for one after the other

A table answers requests for prefixes in any order.  Each of them leaves what has
been given as it is, so prefixes and namespaces stay paired one to one.  No prefix
of the source document is taken for another namespace, and a search for a fresh
prefix ends with the first one that nobody uses.
-/

namespace XmlSchema.PrefixTable

open Xml

/-- What may be asked of a table: a prefix in any case, a prefix for a reference,
or the token of a name. -/
inductive Request where
  | declare (uri : String)
  | reference (uri : String)
  | token (name : QName)

/-- The namespace that a request is about. -/
def Request.uri : Request → String
  | .declare uri => uri
  | .reference uri => uri
  | .token name => name.namespaceName

/-- The table once a request has been answered. -/
def next (t : PrefixTable) : Request → PrefixTable
  | .declare uri => (t.declare uri).2
  | .reference uri => (t.reference uri).2
  | .token name => (t.token name).2

/-- The table once several requests have been answered. -/
def after (t : PrefixTable) (requests : List Request) : PrefixTable := requests.foldl next t

/-- The answer to a request uses a prefix. -/
def Gives (t : PrefixTable) : Request → String → Prop
  | .declare uri, pfx => (t.declare uri).1 = pfx
  | .reference uri, pfx => (t.reference uri).1 = some pfx
  | .token name, pfx => (t.reference name.namespaceName).1 = some pfx ∧
      (t.token name).1 = pfx ++ ":" ++ name.localName

variable {t : PrefixTable} {uri pfx : String}

theorem token_next (t : PrefixTable) (name : QName) :
    (t.token name).2 = (t.reference name.namespaceName).2 := by
  unfold token
  rcases t.reference name.namespaceName with ⟨_ | pfx, later⟩ <;> rfl

/-- A request leaves the table alone or declares its namespace. -/
theorem next_cases (t : PrefixTable) (r : Request) :
    t.next r = t ∨ t.next r = (t.declare r.uri).2 := by
  have hreference : ∀ uri, (t.reference uri).2 = t ∨ (t.reference uri).2 = (t.declare uri).2 := by
    intro uri
    unfold reference
    split
    · exact .inl rfl
    · exact .inr rfl
  cases r with
  | declare uri => exact .inr rfl
  | reference uri => exact hreference uri
  | token name =>
      show (t.token name).2 = t ∨ (t.token name).2 = _
      rw [token_next]
      exact hreference _

/-- The prefix that is given is the one that the namespace is declared with. -/
theorem Gives.declared {r : Request} (h : t.Gives r pfx) :
    (t.declare r.uri).1 = pfx ∧ t.next r = (t.declare r.uri).2 := by
  have hreference : ∀ {uri}, (t.reference uri).1 = some pfx →
      (t.declare uri).1 = pfx ∧ (t.reference uri).2 = (t.declare uri).2 := by
    intro uri huri
    unfold reference at huri ⊢
    split at huri
    · cases huri
    · rename_i hplain
      rw [if_neg hplain]
      exact ⟨Option.some.inj huri, rfl⟩
  cases r with
  | declare uri => exact ⟨h, rfl⟩
  | reference uri => exact hreference h
  | token name =>
      obtain ⟨hpfx, hnext⟩ := hreference h.1
      exact ⟨hpfx, (t.token_next name).trans hnext⟩

/-- No namespace has two prefixes. -/
def Paired (t : PrefixTable) : Prop := (t.declared.toList.map Prod.snd).Nodup

theorem assigned?_eq_none_iff :
    t.assigned? uri = none ↔ uri ∉ t.declared.toList.map Prod.snd := by
  simp only [assigned?, Option.map_eq_none_iff, List.find?_eq_none, List.mem_map, not_exists,
    not_and, beq_iff_eq]

theorem Paired.declare (h : t.Paired) (uri : String) : (t.declare uri).2.Paired := by
  unfold PrefixTable.declare
  split
  · exact h
  · split
    · exact h
    · rename_i hassigned
      -- a namespace without a prefix is bound to one that is not declared yet
      have hnew : (t.recorded? uri).getD (t.fresh (t.stemOf uri)) ∉ t.declared.keys := by
        have hfresh := t.chosen_fresh uri
        simp only [List.mem_cons, not_or] at hfresh
        exact hfresh.2.2
      have hnone := assigned?_eq_none_iff.1 hassigned
      show ((t.declared.declare _ uri).toList.map Prod.snd).Nodup
      rw [Bindings.toList_declare_of_not_mem hnew, List.map_append]
      refine List.nodup_append.2 ⟨h, List.nodup_singleton _, ?_⟩
      rintro a ha b hb rfl
      rw [List.mem_singleton.1 hb] at ha
      exact hnone ha

/-- The prefix of a namespace is the one that is bound to it. -/
theorem assigned?_eq_some_iff (hsound : t.Sound) (hpaired : t.Paired) :
    t.assigned? uri = some pfx ↔ t.declared.lookup? pfx = some uri := by
  constructor
  · intro h
    obtain ⟨⟨p, u⟩, hfind, rfl⟩ := Option.map_eq_some_iff.1 h
    obtain rfl : u = uri := by simpa using List.find?_some hfind
    exact Bindings.lookup?_of_mem hsound.nodup (List.mem_of_find?_eq_some hfind)
  · intro h
    have hmem := Bindings.mem_of_lookup? h
    cases hassigned : t.assigned? uri with
    | none =>
        exact absurd (List.mem_map_of_mem hmem) (assigned?_eq_none_iff.1 hassigned)
    | some other =>
        -- two declarations of one namespace are the same one
        obtain ⟨⟨p, u⟩, hfind, rfl⟩ := Option.map_eq_some_iff.1 hassigned
        obtain rfl : u = uri := by simpa using List.find?_some hfind
        have heq := List.inj_on_of_nodup_map hpaired (List.mem_of_find?_eq_some hfind) hmem rfl
        rw [heq]

/-- The prefixes that are tried for a stem, in order. -/
def tried (stem : String) (k : Nat) : String :=
  if stem ≠ "ns" ∧ k = 0 then stem else stem ++ toString k

theorem numbered_first (t : PrefixTable) (stem : String) (fuel n : Nat) :
    ∃ k, t.numbered stem fuel n = stem ++ toString (n + k) ∧
      ∀ j < k, t.taken (stem ++ toString (n + j)) = true := by
  induction fuel generalizing n with
  | zero => exact ⟨0, rfl, by simp⟩
  | succ fuel ih =>
      unfold numbered
      dsimp only
      split
      · rename_i htaken
        obtain ⟨k, hk, hbefore⟩ := ih (n + 1)
        refine ⟨k + 1, by rw [hk, show n + 1 + k = n + (k + 1) by omega], fun j hj => ?_⟩
        cases j with
        | zero => exact htaken
        | succ j =>
            rw [show n + (j + 1) = n + 1 + j by omega]
            exact hbefore j (by omega)
      · exact ⟨0, rfl, by simp⟩

/-- A fresh prefix is the first of those tried that is not taken. -/
theorem fresh_first (t : PrefixTable) (stem : String) :
    ∃ k, t.fresh stem = tried stem k ∧ t.taken (tried stem k) = false ∧
      ∀ j < k, t.taken (tried stem j) = true := by
  suffices h : ∃ k, t.fresh stem = tried stem k ∧ ∀ j < k, t.taken (tried stem j) = true by
    obtain ⟨k, hk, hbefore⟩ := h
    exact ⟨k, hk, hk ▸ t.taken_fresh stem, hbefore⟩
  unfold fresh
  dsimp only
  split
  · rename_i hstem
    obtain ⟨k, hk, hbefore⟩ := t.numbered_first stem (t.declared.size + t.recorded.size + 1) 0
    simp only [Nat.zero_add] at hk hbefore
    refine ⟨k, ?_, fun j hj => ?_⟩
    · rw [hk, tried, if_neg (by simp [hstem])]
    · rw [tried, if_neg (by simp [hstem])]
      exact hbefore j hj
  · rename_i hstem
    split
    · rename_i htaken
      -- the stem itself is the first one to be tried
      obtain ⟨k, hk, hbefore⟩ := t.numbered_first stem (t.declared.size + t.recorded.size + 1) 1
      refine ⟨1 + k, by simp [hk, tried], fun j hj => ?_⟩
      cases j with
      | zero => simpa [tried, hstem] using htaken
      | succ j =>
          rw [tried, if_neg (by omega), show j + 1 = 1 + j by omega]
          exact hbefore j (by omega)
    · exact ⟨0, by simp [tried, hstem], by simp⟩

/-- What holds of a table whatever has been asked of it: prefixes and namespaces
are paired one to one, neither the empty prefix nor `xml` is declared, no prefix of
the source document is bound to another namespace, and searching for a fresh prefix
comes to the first one that is in use neither here nor in the source document. -/
structure Settled (source : Bindings) (t : PrefixTable) : Prop where
  inverse : ∀ uri pfx, t.assigned? uri = some pfx ↔ t.declared.lookup? pfx = some uri
  not_empty : t.declared.lookup? "" = none
  not_xml : t.declared.lookup? "xml" = none
  uncaptured : ∀ pfx uri other, t.declared.lookup? pfx = some uri →
    source.lookup? pfx = some other → other = uri
  fresh : ∀ stem, ∃ k, t.fresh stem = tried stem k ∧
    tried stem k ∉ "xml" :: (t.declared.keys ++ source.keys) ∧
    ∀ j < k, tried stem j ∈ "xml" :: (t.declared.keys ++ source.keys)

theorem settled_of_sound (hsound : t.Sound) (hpaired : t.Paired)
    (hrecorded : t.recorded.keys.Nodup) : Settled t.recorded t where
  inverse _ _ := assigned?_eq_some_iff hsound hpaired
  not_empty := lookup?_eq_none hsound.not_empty
  not_xml := lookup?_eq_none hsound.not_xml
  uncaptured _ _ _ hnew hold :=
    ((hsound.recorded_eq hrecorded (Bindings.mem_of_lookup? hold)
      (Bindings.mem_of_lookup? hnew)).1).symm
  fresh stem := by
    obtain ⟨k, hk, hfree, hbefore⟩ := t.fresh_first stem
    refine ⟨k, hk, ?_, fun j hj => taken_iff.1 (hbefore j hj)⟩
    rw [← taken_iff, hfree]
    decide

/-- A request keeps what is known of a table. -/
theorem next_extends (hsound : t.Sound) (hpaired : t.Paired) (r : Request) :
    (t.next r).Sound ∧ (t.next r).Paired ∧ t.Extends (t.next r) := by
  rcases t.next_cases r with h | h <;> rw [h]
  · exact ⟨hsound, hpaired, .refl t⟩
  · have hdeclares := declare_declares hsound r.uri
    exact ⟨hdeclares.sound, hpaired.declare r.uri, hdeclares.onward⟩

theorem after_extends (hsound : t.Sound) (hpaired : t.Paired) (requests : List Request) :
    (t.after requests).Sound ∧ (t.after requests).Paired ∧ t.Extends (t.after requests) := by
  induction requests generalizing t with
  | nil => exact ⟨hsound, hpaired, .refl t⟩
  | cons r rest ih =>
      obtain ⟨hnext, hpaired', honward⟩ := next_extends hsound hpaired r
      obtain ⟨hlast, hpaired'', honward'⟩ := ih hnext hpaired'
      exact ⟨hlast, hpaired'', honward.trans honward'⟩

/-- A prefix that is given means its namespace from then on. -/
theorem Gives.meaning {r : Request} (h : t.Gives r pfx) (hsound : t.Sound) :
    (t.next r).meaning pfx = some r.uri := by
  obtain ⟨rfl, hnext⟩ := h.declared
  rw [hnext]
  exact (declare_declares hsound r.uri).meaning

/-- A prefix with a meaning is declared, unless it is the reserved one. -/
theorem lookup?_of_meaning (hsound : t.Sound) (h : t.meaning pfx = some uri)
    (huri : uri ≠ xmlNamespace) : t.declared.lookup? pfx = some uri := by
  have hxml : pfx ≠ "xml" := by
    rintro rfl
    rw [hsound.meaning_xml] at h
    exact huri (Option.some.inj h).symm
  unfold PrefixTable.meaning Meaning.enter Meaning.outermost at h
  rw [if_neg hxml] at h
  cases hlookup : t.declared.lookup? pfx with
  | none =>
      rw [hlookup] at h
      cases h
  | some found =>
      rw [hlookup] at h
      exact h

/-- A namespace that has been given a prefix is given the same one again. -/
theorem declare_again (hsound : t.Sound) (hpaired : t.Paired) (h : t.meaning pfx = some uri)
    (hreserved : uri = xmlNamespace → pfx = "xml") : (t.declare uri).1 = pfx := by
  unfold declare
  split
  · rename_i huri
    exact (hreserved huri).symm
  · rename_i huri
    rw [(assigned?_eq_some_iff hsound hpaired).2 (lookup?_of_meaning hsound h huri)]

theorem Gives.eq_xml {r : Request} (h : t.Gives r pfx) (huri : r.uri = xmlNamespace) :
    pfx = "xml" := by
  rw [← h.declared.1, declare, if_pos huri]

/-- Whatever a schema has recorded and whatever is asked of its table, the table is
settled.  A prefix that has been given for a namespace is declared for it from then
on (`xml` needs no declaration), and of all prefixes that are given later, it is
given for this namespace and for no other. -/
theorem requests_settle (s : Schema) (hbindings : s.bindings.keys.Nodup) (before : List Request) :
    Settled s.bindings ((ofSchema s).after before) ∧
    ∀ r pfx, ((ofSchema s).after before).Gives r pfx → ∀ later,
      let final := (ofSchema s).after (before ++ r :: later)
      (if r.uri = xmlNamespace then pfx = "xml" else final.declared.lookup? pfx = some r.uri) ∧
      ∀ r' pfx', final.Gives r' pfx' → (pfx' = pfx ↔ r'.uri = r.uri) := by
  obtain ⟨hsound, hpaired, honward⟩ :=
    after_extends (sound_ofSchema s) (List.nodup_nil : (ofSchema s).Paired) before
  have hrecorded : ((ofSchema s).after before).recorded = s.bindings := honward.recorded
  refine ⟨?_, fun r pfx hgives later => ?_⟩
  · rw [← hrecorded] at hbindings ⊢
    exact settled_of_sound hsound hpaired hbindings
  · obtain ⟨hnext, hpaired', -⟩ := next_extends hsound hpaired r
    obtain ⟨hfinal, hpaired'', hlater⟩ := after_extends hnext hpaired' later
    have hmeaning := hlater.meaning _ _ (hgives.meaning hsound)
    have hsplit : (ofSchema s).after (before ++ r :: later) =
        (((ofSchema s).after before).next r).after later := by
      rw [after, List.foldl_append]
      rfl
    intro final
    rw [show final = _ from hsplit]
    refine ⟨?_, fun r' pfx' hgives' => ⟨?_, fun huri => ?_⟩⟩
    · split
      · rename_i huri
        exact hgives.eq_xml huri
      · rename_i huri
        exact lookup?_of_meaning hfinal hmeaning huri
    · -- a prefix has one meaning in any table
      rintro rfl
      have hmeaning' := (next_extends hfinal hpaired'' r').2.2.meaning _ _ hmeaning
      rw [hgives'.meaning hfinal] at hmeaning'
      exact Option.some.inj hmeaning'
    · rw [← hgives'.declared.1, huri]
      exact declare_again hfinal hpaired'' hmeaning hgives.eq_xml

/-- A schema whose document has bound one namespace as the default one alone, one
with two prefixes, and the usual prefixes to others. -/
def crossed : Schema where
  number := 1
  key := ⟨"urn:t", "a.xsd"⟩
  targetNamespace := some "urn:t"
  bindings := ⟨[("", "urn:a"), ("b", "urn:b"), ("ns0", "urn:b"), ("tns", "urn:c")]⟩

theorem requests_settle_crossed :
    crossed.bindings.keys.Nodup ∧
    let t := (ofSchema crossed).after [.token ⟨"urn:b", "x"⟩, .declare "urn:t"]
    Settled crossed.bindings t ∧ t.declared.toList = [("b", "urn:b"), ("tns1", "urn:t")] ∧
    ∀ later,
      let final := t.after (.reference "urn:a" :: later)
      final.declared.lookup? "ns1" = some "urn:a" ∧
      ∀ r pfx, final.Gives r pfx → (pfx = "ns1" ↔ r.uri = "urn:a") := by
  have hkeys : crossed.bindings.keys.Nodup := by decide +kernel
  obtain ⟨hsettled, hgiven⟩ :=
    requests_settle crossed hkeys [.token ⟨"urn:b", "x"⟩, .declare "urn:t"]
  refine ⟨hkeys, hsettled, by decide +kernel, fun later => ?_⟩
  have hns : ((ofSchema crossed).after [.token ⟨"urn:b", "x"⟩, .declare "urn:t"]).Gives
      (.reference "urn:a") "ns1" := by
    show Option.some _ = some _
    decide +kernel
  obtain ⟨hdeclared, hothers⟩ := hgiven _ _ hns later
  rw [if_neg (by decide)] at hdeclared
  exact ⟨hdeclared, hothers⟩

end XmlSchema.PrefixTable
