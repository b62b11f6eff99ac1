import XmlSchema.Proofs.Resolution.Recounting

/-!
# Names resolve where they stand

Whatever documents are read into a collection, each name that a schema records
is what a token of its document stands for at the site of the token: the nearest
declaration of the prefix counts, then what the root of the referring document
lends, and a document may take on a namespace in place of none.  The main result
says so for all calls, and that a call fails because of a prefix only where the
prefix means nothing.
-/

namespace XmlSchema

open Attempt

/-- The document that is to be read has come with the request to read it, or is
what the location to be read is answered with. -/
def Reading.Hands (reading : Reading) (answers : Request → Source → Prop) (source : Source) :
    Prop :=
  match reading with
  | .document d => d = ⟨source.locator, source.document⟩
  | .text locator content => Located.parse locator content = .ok ⟨source.locator, source.document⟩
  | .location place base => answers ⟨"", place, base⟩ source

theorem Reading.Hands.mono {reading : Reading} {answers wider : Request → Source → Prop}
    {source : Source} (h : reading.Hands answers source)
    (hw : ∀ r source, answers r source → wider r source) : reading.Hands wider source := by
  cases reading with
  | document d => exact h
  | text locator content => exact h
  | location place base => exact hw _ _ h

namespace Call

/-- A request is answered with a document, by the resolver of a call or by the
cache that the call begins with. -/
def Answers (call : Call) (r : Request) (source : Source) : Prop :=
  call.env.resolver.answer r = .ok (some ⟨source.locator, source.document⟩) ∨
    ∃ cache, call.around.cache = some cache ∧ (r, source) ∈ cache.entries

/-- The documents that some calls come upon. -/
def supply (calls : List Call) : Supply where
  handed source := ∃ call ∈ calls,
    call.reading.Hands (fun r answer => ∃ other ∈ calls, other.Answers r answer) source
  answers r source := ∃ call ∈ calls, call.Answers r source

variable {call : Call} {calls : List Call} {c : Collection}

theorem supply_within (call : Call) (calls : List Call) :
    (supply calls).Within (supply (calls ++ [call])) where
  handed := fun _ ⟨earlier, hearlier, h⟩ => ⟨earlier, List.mem_append_left _ hearlier,
    h.mono fun _ _ ⟨other, hother, hanswer⟩ => ⟨other, List.mem_append_left _ hother, hanswer⟩⟩
  answers := fun _ _ ⟨earlier, hearlier, h⟩ => ⟨earlier, List.mem_append_left _ hearlier, h⟩

/-- A document that is handed over is read as its own. -/
theorem build_records {supply : Supply} {env : Environment} {w : Workspace}
    (hanswers : ∀ r source, env.resolver.answer r = .ok (some ⟨source.locator, source.document⟩) →
      supply.answers r source)
    (h : Compose.Recorded supply w) (d : Located)
    (hd : ∀ ticket, supply.handed ⟨d.locator, d.document, ticket⟩) :
    Ends (Compose.build env d) w (fun _ w' => Compose.Records supply w w')
      (Compose.Breaks supply env w) := by
  unfold Compose.build Compose.issue
  rw [ends_bind, ends_modifyGet]
  have hissued : Compose.Recorded supply { w with nextTicket := w.nextTicket + 1 } :=
    ⟨h.collection, h.cache⟩
  refine (Compose.buildSource_records hanswers _ _ _ none none {} hissued
    (.handed (hd w.nextTicket))).mono ?_ ?_
  · exact fun _ _ hw => ⟨hw.recorded, hw.grows⟩
  · exact fun _ _ hw => ⟨⟨hw.1.recorded, hw.1.grows⟩, hw.2⟩

/-- A call records what it reads. -/
theorem run_records (call : Call) (hc : c.Recounted (supply calls)) :
    Ends (call.reading.run call.env) { call.around with collection := c }
      (fun _ w' => Compose.Records (supply (calls ++ [call]))
        { call.around with collection := c } w')
      (Compose.Breaks (supply (calls ++ [call])) call.env
        { call.around with collection := c }) := by
  have hlast : call ∈ calls ++ [call] := List.mem_append_right _ (List.mem_singleton_self call)
  have hanswers : ∀ r source,
      call.env.resolver.answer r = .ok (some ⟨source.locator, source.document⟩) →
        (supply (calls ++ [call])).answers r source :=
    fun r source h => ⟨call, hlast, .inl h⟩
  have hrecorded : Compose.Recorded (supply (calls ++ [call]))
      { call.around with collection := c } :=
    ⟨hc.widen (supply_within call calls), fun cache hcache entry hentry =>
      ⟨call, hlast, .inr ⟨cache, hcache, hentry⟩⟩⟩
  have hhanded : ∀ source,
      call.reading.Hands (fun r source => (supply (calls ++ [call])).answers r source) source →
        (supply (calls ++ [call])).handed source :=
    fun source h => ⟨call, hlast, h⟩
  cases hreading : call.reading with
  | document d =>
      rw [hreading] at hhanded
      exact (build_records hanswers hrecorded d fun ticket => hhanded _ rfl).bind
        fun n w' hw' => hw'
  | text locator content =>
      rw [hreading] at hhanded
      refine Ends.bind (Q := fun _ w' => Compose.Records (supply (calls ++ [call]))
        { call.around with collection := c } w') ?_ fun n w' hw' => hw'
      unfold Compose.buildText
      cases hparse : Located.parse locator content with
      | error e =>
          refine ⟨.refl hrecorded, fun pfx token key he => ?_⟩
          unfold Located.parse at hparse
          split at hparse
          · cases hparse
          · rw [← Except.error.inj hparse] at he
            cases he
      | ok d => exact build_records hanswers hrecorded d fun ticket => hhanded _ hparse
  | location place base =>
      rw [hreading] at hhanded
      exact Compose.resolveNested_records hanswers (Compose.buildSource_records hanswers _)
        hrecorded ⟨"", place, base⟩ none none {} fun source hsource =>
          .handed (hhanded source hsource)

theorem recounted_empty (supply : Supply) : Collection.empty.Recounted supply where
  keyed := ⟨Collection.tallied_empty.numbered, List.nodup_singleton _⟩
  recounts n s hs hbuiltin := by
    obtain ⟨-, rfl⟩ := Collection.schemas_empty hs
    cases hbuiltin

/-- All that some calls have read is recorded. -/
theorem recounted_performAll (calls : List Call) :
    (performAll calls .empty).Recounted (supply calls) := by
  induction calls using List.reverseRecOn with
  | nil => exact recounted_empty _
  | append_singleton calls call ih =>
      rw [performAll_concat]
      exact Ends.state (R := fun w' => w'.collection.Recounted (supply (calls ++ [call])))
        ((run_records call ih).mono (fun _ _ h => h.recorded.collection)
          fun _ _ h => h.1.recorded.collection)

end Call

namespace Collection

/-- After any calls, each schema records what stands in its document: the names
that its tokens stand for at their sites.  A call fails because of a prefix only
if the prefix means nothing where it stands, or if the call is answered so. -/
theorem references_denote (calls : List Call) :
    (∀ (n : Nat) (s : Schema), (Call.performAll calls .empty).schemas[n]? = some s →
      s.builtin = false → (Call.performAll calls .empty).Recounts (Call.supply calls) n s) ∧
    ∀ (call : Call) (pfx token : String) (key : SchemaKey),
      (call.perform (Call.performAll calls .empty)).1 = .error (.unboundPrefix pfx token key) →
        (∃ r, call.env.resolver.answer r = .error (.unboundPrefix pfx token key)) ∨
          (call.perform (Call.performAll calls .empty)).2.Unread
            (Call.supply (calls ++ [call])) (.unboundPrefix pfx token key) := by
  have hrecounted := Call.recounted_performAll calls
  refine ⟨hrecounted.recounts, fun call pfx token key hanswer => ?_⟩
  have hends := Call.run_records call hrecounted
  exact (hends.of_error (Prod.ext hanswer rfl)).2 pfx token key rfl

/-- A document that binds a prefix and includes another one. -/
def lender : String :=
  "<s:schema xmlns:s=\"http://www.w3.org/2001/XMLSchema\" xmlns:p=\"urn:p\" " ++
    "targetNamespace=\"urn:n\"><s:include schemaLocation=\"b.xsd\"/></s:schema>"

/-- Reading that document, when the other one has a single element of some type. -/
def lendingCall (type : String) : Call :=
  { env := ⟨.ofDocuments [("a.xsd", lender), ("b.xsd",
      "<s:schema xmlns:s=\"http://www.w3.org/2001/XMLSchema\"><s:element name=\"e\" type=\"" ++
        type ++ "\"/></s:schema>")], .keep⟩
    around := {}
    reading := .location "a.xsd" none }

/-- The type of the first element of a schema. -/
def firstType? (c : Collection) (n : Nat) : Option TypeSlot :=
  (c.get? (⟨n, 0⟩ : ComponentId .element)).map ElementDecl.type

/-- An included document uses a prefix that only the including one binds, and
then another document uses it without a binding. -/
theorem references_denote_lent :
    (∃ s, (Call.performAll [lendingCall "p:t"] .empty).schemas[2]? = some s ∧
      (Call.performAll [lendingCall "p:t"] .empty).Recounts (Call.supply [lendingCall "p:t"]) 2 s ∧
      (Call.performAll [lendingCall "p:t"] .empty).firstType? 2 =
        some (.named ⟨"urn:p", "t"⟩ none)) ∧
    ((∃ r, unboundCall.env.resolver.answer r =
        .error (.unboundPrefix "p" "p:t" ⟨"", "a.xsd"⟩)) ∨
      (unboundCall.perform (Call.performAll [lendingCall "p:t"] .empty)).2.Unread
        (Call.supply [lendingCall "p:t", unboundCall])
        (.unboundPrefix "p" "p:t" ⟨"", "a.xsd"⟩)) := by
  have hread : (Call.performAll [lendingCall "p:t"] .empty).schemas[2]?.map Schema.builtin =
        some false ∧
      (Call.performAll [lendingCall "p:t"] .empty).firstType? 2 = some (.named ⟨"urn:p", "t"⟩ none) ∧
      (unboundCall.perform (Call.performAll [lendingCall "p:t"] .empty)).1 =
        .error (.unboundPrefix "p" "p:t" ⟨"", "a.xsd"⟩) := by
    decide +kernel
  obtain ⟨hbuiltin, htype, hanswer⟩ := hread
  obtain ⟨s, hs, hown⟩ := Option.map_eq_some_iff.1 hbuiltin
  exact ⟨⟨s, hs, (references_denote [lendingCall "p:t"]).1 2 s hs hown, htype⟩,
    (references_denote [lendingCall "p:t"]).2 unboundCall "p" "p:t" ⟨"", "a.xsd"⟩ hanswer⟩

/-- A name that takes on a namespace is trimmed once more: its local part need
not be what follows the colon. -/
theorem firstType?_spaced :
    (Call.performAll [lendingCall ": a"] .empty).firstType? 2 =
        some (.named ⟨"urn:n", Text.trim (splitPrefixed ": a").2⟩ none) ∧
      (splitPrefixed ": a").1 = "" ∧
      Text.trim (splitPrefixed ": a").2 ≠ (splitPrefixed ": a").2 := by
  decide +kernel

end Collection

end XmlSchema
