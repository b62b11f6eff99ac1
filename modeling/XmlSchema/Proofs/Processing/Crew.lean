import Mathlib.Algebra.GroupWithZero.Nat
import Mathlib.Data.Set.List
import XmlSchema.Proofs.Processing.Alone

/-!
# A schedule is not noticed

Whatever a worker has built before, and whatever the other workers do, it
reports on a document what is reported when that document is processed alone
without a cache.  What a worker keeps from one document to the next is a cache
that answers like the resolver (`Worker.Faithful`), and a document that is half
built keeps in step with its building without a cache (`Turn.Fits`).  No
schedule goes on forever, since every move on a file brings that file closer to
its end (`toGo_deals`), and a crew is stuck only when it is through.
-/

namespace XmlSchema

open Attempt

/-- The cache of a worker answers like a resolver. -/
def Worker.Faithful (resolver : Resolver) (worker : Worker) : Prop :=
  ∀ cache, worker.cache = some cache → cache.Faithful resolver

theorem Worker.faithful_fresh (resolver : Resolver) (capacity : Option Nat) :
    (Worker.fresh capacity).Faithful resolver := by
  intro cache hcache
  cases capacity with
  | none => cases hcache
  | some n =>
      cases hcache
      exact nofun

namespace Worker

variable {env : Environment} {ws v : Workspace}

theorem faithful_resume (worker : Worker) (h : Compose.Mirrors env ws v) :
    (worker.resume ws).Faithful env.resolver := h.faithful

theorem Faithful.keep {resolver : Resolver} {worker : Worker} (h : worker.Faithful resolver)
    (c : Collection) (direct : Option Nat) : (worker.keep c direct).Faithful resolver := by
  unfold Worker.keep
  split
  · exact h
  · exact h

/-- A document is begun as without a cache. -/
theorem Faithful.begins {worker : Worker} (h : worker.Faithful env.resolver) :
    Compose.Mirrors env worker.workspace {} := ⟨rfl, rfl, rfl, h, List.Sublist.refl _⟩

end Worker

/-- Which entries a cache is about to lose does not matter. -/
theorem Compose.Mirrors.losing {env : Environment} {ws v : Workspace}
    (h : Compose.Mirrors env ws v) (evictions : List (List Request)) :
    Compose.Mirrors env (ws.losing evictions) v := by
  refine ⟨h.collection, h.met, h.cacheless, ?_, h.requests⟩
  intro cache hcache
  obtain ⟨old, hold, rfl⟩ := Option.map_eq_some_iff.1 hcache
  exact h.faithful old hold

/-- A turn is one that the file at a path can have.  A document that is half
built comes to the same end as if it were built alone. -/
def Turn.Fits (p : Processor) (t : FileTree) (flag : Bool) (path : String) : Turn → Prop
  | .waiting file => file = path
  | .building file _ known ws =>
      file = path ∧ ∃ v, Compose.Mirrors (p.environment t) ws v ∧
        exec (p.remaining t path known) v = exec (p.compose t path) {}
  | .done worker report => worker.Faithful (p.resolver t) ∧ report = (p.single t path).1
  | .ended report =>
      report = (p.single t path).1 ∨
        report = { path, status := .skipped Processor.skipReason } ∧ p.failFast = true ∧ flag = true

namespace Turn

variable {p : Processor} {t : FileTree} {flag : Bool} {path : String}

/-- The flag may go up. -/
theorem Fits.raise {turn : Turn} (h : turn.Fits p t flag path) (failed : Bool) :
    turn.Fits p t (flag || failed) path := by
  cases turn with
  | ended report =>
      obtain h | ⟨hreport, hfast, rfl⟩ := h
      · exact .inl h
      · exact .inr ⟨hreport, hfast, rfl⟩
  | _ => exact h

/-- A worker that has taken a file begins like one without a cache. -/
theorem fits_begun {worker : Worker} (h : worker.Faithful (p.resolver t)) :
    (building path worker p.knownNamespaces worker.workspace).Fits p t flag path :=
  ⟨rfl, {}, Worker.Faithful.begins h, rfl⟩

/-- A document that ends like one that is built alone is reported like it. -/
theorem fits_conclude (hdir : p.outputDirectory = none) {worker : Worker}
    {x : Except SchemaError (Nat × Bool) × Workspace}
    (h : Compose.Outcomes (p.environment t) Eq x (exec (p.compose t path) {})) :
    (p.conclude path worker x).Fits p t flag path := by
  have hsingle := p.single_eq hdir t path
  generalize exec (p.compose t path) {} = y at h hsingle
  cases h with
  | ok hab hlater =>
      cases hab
      refine ⟨(worker.faithful_resume hlater).keep _ _, ?_⟩
      rw [hsingle]
      exact Processor.reportBuilt_congr hlater.collection _ path []
  | error e hlater => exact ⟨worker.faithful_resume hlater, hsingle.symm⟩

/-- A worker that goes on keeps in step. -/
theorem Fits.advance (hdir : p.outputDirectory = none) {file : String} {worker : Worker}
    {known : List (String × String)} {ws : Workspace}
    (h : (building file worker known ws).Fits p t flag path)
    (evictions : List (List Request)) :
    (p.advance t file worker (ws.losing evictions) known).Fits p t flag path := by
  obtain ⟨rfl, v, hv, hremaining⟩ := h
  cases known with
  | nil =>
      have hentry := Processor.buildEntry_agree (hv.losing evictions) t file
      unfold Compose.Agree at hentry
      rw [← p.exec_remaining_nil t file v, hremaining] at hentry
      rw [p.advance_nil]
      exact fits_conclude hdir hentry
  | cons entry rest =>
      -- alone, the known namespaces are built in one go; the first of them is split off
      have hload := p.loadKnown_agree [entry] (hv.losing evictions)
      unfold Compose.Agree at hload
      rw [p.exec_remaining_cons] at hremaining
      rw [p.advance_cons]
      generalize exec (p.loadKnown (p.environment t) [entry]) (ws.losing evictions) = x
        at hload ⊢
      generalize exec (p.loadKnown (p.environment t) [entry]) v = y at hload hremaining
      cases hload with
      | ok hab hlater => exact ⟨rfl, _, hlater, hremaining⟩
      | error e hlater =>
          refine fits_conclude hdir ?_
          rw [← hremaining]
          exact .error e hlater

end Turn

/-- How many moves a turn is from its end at most. -/
def Turn.toGo (p : Processor) : Turn → Nat
  | .waiting _ => p.knownNamespaces.length + 3
  | .building _ _ known _ => known.length + 2
  | .done _ _ => 1
  | .ended _ => 0

/-- Whether a worker has a file. -/
def Turn.isUnderway : Turn → Bool
  | .building _ _ _ _ => true
  | .done _ _ => true
  | _ => false

/-- A worker that goes on still has its file, and less to do. -/
theorem Turn.advance_onward (p : Processor) (t : FileTree) (path : String) (worker : Worker)
    (ws : Workspace) (known : List (String × String)) :
    (p.advance t path worker ws known).isUnderway = true ∧
      (p.advance t path worker ws known).toGo p < known.length + 2 := by
  cases known with
  | nil =>
      obtain ⟨later, report, hdone⟩ := p.exists_conclude path worker
        (exec (Processor.buildEntry (p.environment t) t path) ws)
      rw [p.advance_nil, hdone]
      exact ⟨rfl, by simp [toGo]⟩
  | cons entry rest =>
      rw [p.advance_cons]
      rcases exec (p.loadKnown (p.environment t) [entry]) ws with ⟨e | a, ws'⟩
      · obtain ⟨later, report, hdone⟩ := p.exists_conclude path worker (.error e, ws')
        dsimp only
        rw [hdone]
        exact ⟨rfl, by simp [toGo]⟩
      · exact ⟨rfl, by simp [toGo]⟩

namespace Crew

variable {p : Processor} {t : FileTree} {paths : List String} {s s' : Crew} {i : Nat}

/-- What a move on the file `i` does. -/
inductive Deals (p : Processor) (t : FileTree) (s : Crew) (i : Nat) : Crew → Prop
  | skip {n : Nat} {worker : Worker} {path : String} (hidle : s.idle[n]? = some worker)
      (hturn : s.turns[i]? = some (.waiting path)) (hfast : p.failFast = true)
      (hflag : s.flag = true) :
      Deals p t s i (s.turn i (.ended { path, status := .skipped Processor.skipReason }))
  | begin {n : Nat} {worker : Worker} {path : String} (hidle : s.idle[n]? = some worker)
      (hturn : s.turns[i]? = some (.waiting path)) :
      Deals p t s i ({ s with idle := s.idle.eraseIdx n }.turn i
        (.building path worker p.knownNamespaces worker.workspace))
  | work {path : String} {worker : Worker} {known : List (String × String)} {ws : Workspace}
      (evictions : List (List Request))
      (hturn : s.turns[i]? = some (.building path worker known ws)) :
      Deals p t s i (s.turn i (p.advance t path worker (ws.losing evictions) known))
  | handIn {worker : Worker} {report : DocumentReport}
      (hturn : s.turns[i]? = some (.done worker report)) :
      Deals p t s i ({ s with
        idle := worker :: s.idle, flag := s.flag || report.status.isFailed }.turn i (.ended report))

/-- Another worker comes, or a move deals with one of the files. -/
theorem step_cases {move : Move} (h : step p t s move = some s') :
    move = .join ∧ s' = { s with idle := s.idle ++ [Worker.fresh p.cacheCapacity] } ∨
      move.onFile = true ∧ ∃ i, Deals p t s i s' := by
  cases move with
  | join => exact .inl ⟨rfl, (Option.some.inj h).symm⟩
  | take n i sees =>
      refine .inr ⟨rfl, i, ?_⟩
      unfold step at h
      dsimp only at h
      split at h
      · rename_i worker path hidle hturn
        split at h
        · cases h
        · rename_i hsees
          split at h
          · rename_i hskip
            cases h
            simp only [Bool.and_eq_true, Bool.not_eq_true'] at hsees hskip
            -- a worker that sees the flag up is not mistaken
            have hflag : s.flag = true := by
              cases hflag : s.flag with
              | true => rfl
              | false => exact absurd ⟨hskip.2, hflag⟩ hsees
            exact .skip hidle hturn hskip.1 hflag
          · cases h
            exact .begin hidle hturn
      · cases h
  | work i evictions =>
      refine .inr ⟨rfl, i, ?_⟩
      unfold step at h
      dsimp only at h
      split at h
      · rename_i hturn
        cases h
        exact .work evictions hturn
      · cases h
  | handIn i =>
      refine .inr ⟨rfl, i, ?_⟩
      unfold step at h
      dsimp only at h
      split at h
      · rename_i hturn
        cases h
        exact .handIn hturn
      · cases h

/-- How many moves a crew is from its end at most. -/
def toGo (p : Processor) (s : Crew) : Nat := (s.turns.map (Turn.toGo p)).sum

theorem toGo_turn {old next : Turn} (hturn : s.turns[i]? = some old)
    (hlt : next.toGo p < old.toGo p) : (s.turn i next).toGo p < s.toGo p := by
  obtain ⟨idle, turns, flag⟩ := s
  unfold toGo turn
  dsimp only at hturn ⊢
  induction turns generalizing i with
  | nil => cases hturn
  | cons first rest ih =>
      cases i with
      | zero =>
          cases hturn
          simp only [List.set_cons_zero, List.map_cons, List.sum_cons]
          omega
      | succ i =>
          have hrest := ih (i := i) hturn
          simp only [List.set_cons_succ, List.map_cons, List.sum_cons]
          omega

/-- A file that is dealt with comes closer to its end. -/
theorem toGo_deals (h : Deals p t s i s') : s'.toGo p < s.toGo p := by
  cases h with
  | skip hidle hturn hfast hflag => exact toGo_turn hturn (by simp [Turn.toGo])
  | begin hidle hturn => exact toGo_turn (s := { s with idle := _ }) hturn (by simp [Turn.toGo])
  | work evictions hturn => exact toGo_turn hturn (Turn.advance_onward p t _ _ _ _).2
  | handIn hturn =>
      exact toGo_turn (s := { s with idle := _, flag := _ }) hturn (by simp [Turn.toGo])

/-- A crew whose run has gone as it should.  Files that are over stay over, so
that the flag has a reason once it is up. -/
structure Sound (p : Processor) (t : FileTree) (paths : List String) (s : Crew) : Prop where
  idle : ∀ worker ∈ s.idle, worker.Faithful (p.resolver t)
  length : s.turns.length = paths.length
  fits : ∀ (i : Nat) (path : String) (turn : Turn), paths[i]? = some path →
    s.turns[i]? = some turn → turn.Fits p t s.flag path
  reason : s.flag = true → ∃ (i : Nat) (report : DocumentReport),
    s.turns[i]? = some (.ended report) ∧ report.status.isFailed = true
  manned : s.idle ≠ [] ∨ ∃ (i : Nat) (turn : Turn),
    s.turns[i]? = some turn ∧ turn.isUnderway = true

theorem getElem?_turn (s : Crew) {old : Turn} (hturn : s.turns[i]? = some old) (next : Turn)
    (j : Nat) : (s.turn i next).turns[j]? = if i = j then some next else s.turns[j]? := by
  have hi : i < s.turns.length := (List.getElem?_eq_some_iff.1 hturn).1
  unfold turn
  rw [List.getElem?_set, if_pos hi]

theorem sound_assemble (p : Processor) (t : FileTree) (paths : List String) :
    Sound p t paths (assemble p paths) where
  idle := by
    intro worker hworker
    rw [List.mem_singleton.1 hworker]
    exact Worker.faithful_fresh _ _
  length := List.length_map _
  fits := by
    intro i path turn hpath hturn
    unfold assemble at hturn
    rw [List.getElem?_map, hpath] at hturn
    cases hturn
    rfl
  reason := nofun
  manned := .inl (List.cons_ne_nil _ _)

/-- What remains to be shown when the file `i` comes to another turn. -/
theorem Sound.turn {old next : Turn} {idle : List Worker} {failed : Bool}
    (h : Sound p t paths s) (hturn : s.turns[i]? = some old) (hopen : old.toGo p ≠ 0)
    (hidle : ∀ worker ∈ idle, worker.Faithful (p.resolver t))
    (hnext : ∀ path, old.Fits p t s.flag path → next.Fits p t s.flag path)
    (hfailed : failed = true →
      ∃ report, next = .ended report ∧ report.status.isFailed = true)
    (hmanned : idle ≠ [] ∨ next.isUnderway = true) :
    Sound p t paths ({ s with idle, flag := s.flag || failed }.turn i next) := by
  have hset := getElem?_turn (s := { s with idle, flag := s.flag || failed }) hturn next
  refine ⟨hidle, ?_, ?_, ?_, ?_⟩
  · show (s.turns.set i next).length = _
    rw [List.length_set]
    exact h.length
  · intro j path turn hpath hj
    rw [hset] at hj
    split at hj
    · rename_i hij
      cases hj
      subst hij
      exact (hnext path (h.fits i path old hpath hturn)).raise failed
    · exact (h.fits j path turn hpath hj).raise failed
  · intro hflag
    rcases Bool.or_eq_true_iff.1 hflag with hflag | hflag
    · obtain ⟨j, report, hj, hreport⟩ := h.reason hflag
      refine ⟨j, report, ?_, hreport⟩
      rw [hset, if_neg ?_]
      · exact hj
      · -- the file `j` is over, and the file `i` was not
        rintro rfl
        rw [hturn] at hj
        cases hj
        exact hopen rfl
    · obtain ⟨report, rfl, hreport⟩ := hfailed hflag
      exact ⟨i, report, by rw [hset, if_pos rfl], hreport⟩
  · rcases hmanned with hmanned | hmanned
    · exact .inl hmanned
    · exact .inr ⟨i, next, by rw [hset, if_pos rfl], hmanned⟩

theorem Sound.deals (hdir : p.outputDirectory = none) (h : Sound p t paths s)
    (hdeals : Deals p t s i s') : Sound p t paths s' := by
  have hunraised : ∀ {s : Crew},
      ({ s with idle := s.idle, flag := s.flag || false } : Crew) = s := by
    intro s
    rw [Bool.or_false]
  cases hdeals with
  | skip hidle hturn hfast hflag =>
      rw [← hunraised (s := s)]
      refine h.turn hturn (by simp [Turn.toGo]) h.idle ?_ nofun (.inl ?_)
      · rintro _ rfl
        exact .inr ⟨rfl, hfast, hflag⟩
      · exact List.ne_nil_of_mem (List.mem_of_getElem? hidle)
  | begin hidle hturn =>
      rw [← Bool.or_false s.flag]
      -- there may be no idle worker left, but the one that has begun has a file
      refine h.turn hturn (by simp [Turn.toGo]) ?_ ?_ nofun (.inr rfl)
      · exact fun worker hworker => h.idle worker (List.mem_of_mem_eraseIdx hworker)
      · rintro _ rfl
        exact Turn.fits_begun (h.idle _ (List.mem_of_getElem? hidle))
  | work evictions hturn =>
      rw [← hunraised (s := s)]
      refine h.turn hturn (by simp [Turn.toGo]) h.idle ?_ nofun (.inr ?_)
      · exact fun path hfits => hfits.advance hdir evictions
      · exact (Turn.advance_onward p t _ _ _ _).1
  | @handIn worker report hturn =>
      have hworker : worker.Faithful (p.resolver t) := by
        have hlt : i < paths.length := h.length ▸ (List.getElem?_eq_some_iff.1 hturn).1
        exact (h.fits i _ _ (List.getElem?_eq_getElem hlt) hturn).1
      refine h.turn hturn (by simp [Turn.toGo]) ?_ ?_ ?_ (.inl (List.cons_ne_nil _ _))
      · intro other hother
        rcases List.mem_cons.1 hother with rfl | hother
        · exact hworker
        · exact h.idle other hother
      · exact fun path hfits => .inl hfits.2
      · exact fun hfailed => ⟨report, rfl, hfailed⟩

theorem Sound.join (h : Sound p t paths s) :
    Sound p t paths { s with idle := s.idle ++ [Worker.fresh p.cacheCapacity] } := by
  refine ⟨?_, h.length, h.fits, h.reason, .inl (by simp)⟩
  intro worker hworker
  rcases List.mem_append.1 hworker with hworker | hworker
  · exact h.idle worker hworker
  · rw [List.mem_singleton.1 hworker]
    exact Worker.faithful_fresh _ _

/-- Every move keeps a crew sound, and brings it closer to its end if it deals
with a file. -/
theorem Sound.step (hdir : p.outputDirectory = none) (h : Sound p t paths s) {move : Move}
    (hstep : step p t s move = some s') :
    Sound p t paths s' ∧ s'.toGo p + (if move.onFile then 1 else 0) ≤ s.toGo p := by
  rcases step_cases hstep with ⟨rfl, rfl⟩ | ⟨hmove, i, hdeals⟩
  · exact ⟨h.join, Nat.le_refl _⟩
  · rw [if_pos hmove]
    exact ⟨h.deals hdir hdeals, toGo_deals hdeals⟩

theorem Sound.run (hdir : p.outputDirectory = none) {moves : List Move}
    (h : Sound p t paths s) (hrun : run p t moves s = some s') :
    Sound p t paths s' ∧ s'.toGo p + (moves.filter Move.onFile).length ≤ s.toGo p := by
  induction moves generalizing s with
  | nil =>
      cases hrun
      exact ⟨h, Nat.le_refl _⟩
  | cons move rest ih =>
      unfold Crew.run at hrun
      rw [List.foldlM_cons, Option.bind_eq_bind, Option.bind_eq_some_iff] at hrun
      obtain ⟨s₁, hstep, hrest⟩ := hrun
      obtain ⟨h₁, hmove⟩ := h.step hdir hstep
      obtain ⟨h', hmoves⟩ := ih h₁ hrest
      refine ⟨h', ?_⟩
      rw [List.filter_cons]
      split at hmove <;> rename_i honFile
      · rw [if_pos honFile, List.length_cons]
        omega
      · rw [if_neg honFile]
        omega

theorem stuck_of_toGo (h : s.toGo p = 0) {move : Move} (hmove : move.onFile = true) :
    Crew.step p t s move = none := by
  cases hstep : Crew.step p t s move with
  | none => rfl
  | some s' =>
      rcases step_cases hstep with ⟨rfl, -⟩ | ⟨-, i, hdeals⟩
      · cases hmove
      · have hlt := toGo_deals hdeals
        omega

/-- A crew that can make no move on a file is through with all of them. -/
theorem Sound.through (h : Sound p t paths s)
    (hstuck : ∀ move, move.onFile = true → Crew.step p t s move = none) :
    ∃ reports : List DocumentReport, s.turns = reports.map .ended := by
  -- a worker that has a file can go on, or hand in its report
  have hnone : ∀ (i : Nat) (turn : Turn), s.turns[i]? = some turn → turn.isUnderway = false := by
    intro i turn hturn
    cases turn with
    | building path worker known ws =>
        have hwork := hstuck (.work i []) rfl
        unfold Crew.step at hwork
        dsimp only at hwork
        rw [hturn] at hwork
        cases hwork
    | done worker report =>
        have hhandIn := hstuck (.handIn i) rfl
        unfold Crew.step at hhandIn
        dsimp only at hhandIn
        rw [hturn] at hhandIn
        cases hhandIn
    | _ => rfl
  -- so there is an idle one, and it could take any file that is waiting
  have hidle : s.idle ≠ [] := by
    rcases h.manned with hidle | ⟨i, turn, hturn, hunderway⟩
    · exact hidle
    · rw [hnone i turn hturn] at hunderway
      cases hunderway
  obtain ⟨worker, others, hworkers⟩ := List.exists_cons_of_ne_nil hidle
  have hended : s.turns ∈ Set.range (List.map Turn.ended) := by
    rw [Set.range_list_map]
    intro turn hmem
    obtain ⟨i, hturn⟩ := List.mem_iff_getElem?.1 hmem
    cases turn with
    | waiting path =>
        have htake := hstuck (.take 0 i false) rfl
        unfold Crew.step at htake
        dsimp only at htake
        rw [hturn, hworkers] at htake
        simp at htake
    | ended report => exact Set.mem_range_self report
    | building path worker known ws => cases hnone i _ hturn
    | done worker report => cases hnone i _ hturn
  obtain ⟨reports, hreports⟩ := hended
  exact ⟨reports, hreports.symm⟩

theorem toGo_assemble (p : Processor) (paths : List String) :
    (assemble p paths).toGo p = paths.length * (p.knownNamespaces.length + 3) := by
  have hall : (paths.map Turn.waiting).map (Turn.toGo p) =
      paths.map fun _ => p.knownNamespaces.length + 3 := List.map_map
  unfold toGo assemble
  rw [hall, List.map_const', List.sum_replicate_nat]

/-- No schedule is noticed.  Every schedule comes to an end: it makes only so
many moves on files, and once no such move can be made there is one report on
each file, in the order of the files.  A report is the one on that document
processed alone without a cache, unless the file is skipped; and a file is
skipped only when a failure ends the run and another document has failed. -/
theorem schedule_unnoticed (t : FileTree) (paths : List String)
    (hdir : p.outputDirectory = none) {moves : List Move}
    (hrun : run p t moves (assemble p paths) = some s) :
    (moves.filter Move.onFile).length ≤ paths.length * (p.knownNamespaces.length + 3) ∧
      ((∀ move, move.onFile = true → step p t s move = none) →
        ∃ reports : List DocumentReport,
          s.reports = reports.map some ∧ reports.length = paths.length ∧
            ∀ (i : Nat) (path : String), paths[i]? = some path →
              ∃ report, reports[i]? = some report ∧ report.path = path ∧
                (report.status.isSkipped = false → report = (p.single t path).1) ∧
                (report.status.isSkipped = true → p.failFast = true ∧
                  ∃ (j : Nat) (other : DocumentReport), j ≠ i ∧ reports[j]? = some other ∧
                    other.status.isFailed = true)) := by
  obtain ⟨hsound, htoGo⟩ := (sound_assemble p t paths).run hdir hrun
  rw [toGo_assemble] at htoGo
  refine ⟨by omega, fun hstuck => ?_⟩
  obtain ⟨reports, hreports⟩ := hsound.through hstuck
  have hlength : reports.length = paths.length := by
    rw [← hsound.length, hreports, List.length_map]
  have hturn : ∀ j : Nat, s.turns[j]? = (reports[j]?).map .ended := by
    intro j
    rw [hreports, List.getElem?_map]
  have hhanded : s.reports = reports.map some := by
    unfold Crew.reports
    rw [hreports, List.map_map]
    rfl
  refine ⟨reports, hhanded, hlength, fun i path hpath => ?_⟩
  have hlt : i < reports.length := hlength ▸ (List.getElem?_eq_some_iff.1 hpath).1
  obtain ⟨report, hreport⟩ : ∃ report, reports[i]? = some report :=
    ⟨_, List.getElem?_eq_getElem hlt⟩
  refine ⟨report, hreport, ?_⟩
  have hfits := hsound.fits i path (.ended report) hpath (by rw [hturn, hreport]; rfl)
  rcases hfits with rfl | ⟨rfl, hfast, hflag⟩
  · refine ⟨p.single_path hdir t path, fun _ => rfl, fun hskipped => ?_⟩
    rw [p.single_not_skipped hdir t path] at hskipped
    cases hskipped
  · refine ⟨rfl, nofun, fun _ => ⟨hfast, ?_⟩⟩
    obtain ⟨j, other, hother, hfailed⟩ := hsound.reason hflag
    rw [hturn, Option.map_eq_some_iff] at hother
    obtain ⟨_, hj, hsame⟩ := hother
    cases hsame
    refine ⟨j, other, ?_, hj, hfailed⟩
    -- a file that is skipped has not failed
    rintro rfl
    rw [hreport] at hj
    cases hj
    cases hfailed

/-- Two workers take a file each.  There is no document without a path, so that
the third file is skipped; a known namespace brings the second one along. -/
theorem schedule_unnoticed_twoWorkers :
    let p : Processor := {
      knownNamespaces := [("urn:a", "a.xsd")], cacheCapacity := some 1, failFast := true
      resolver := fun _ => .ofDocuments [("a.xsd",
        "<s:schema xmlns:s=\"http://www.w3.org/2001/XMLSchema\"/>")] }
    let moves : List Move := [.join, .take 0 0 false, .take 0 1 false, .work 1 [], .work 0 [],
      .work 0 [], .handIn 0, .take 0 2 true, .work 1 [], .handIn 1]
    ∃ s other, run p {} moves (assemble p ["", "a.xsd", "b.xsd"]) = some s ∧
      s.reports = [some (p.single {} "").1, some (p.single {} "a.xsd").1, some other] ∧
      other.path = "b.xsd" ∧ other.status.isSkipped = true := by
  intro p moves
  have hevaluated : (run p {} moves (assemble p ["", "a.xsd", "b.xsd"])).map
      (fun s => (s.toGo p, s.reports.map (Option.map fun r => r.status.isSkipped))) =
        some (0, [some false, some false, some true]) := by
    decide +kernel
  obtain ⟨s, hrun, hs⟩ := Option.map_eq_some_iff.1 hevaluated
  obtain ⟨htoGo, hskipped⟩ := Prod.mk.inj hs
  obtain ⟨-, hend⟩ := schedule_unnoticed {} ["", "a.xsd", "b.xsd"] rfl hrun
  obtain ⟨reports, hreports, hlength, heach⟩ := hend fun _ hmove => stuck_of_toGo htoGo hmove
  rw [hreports] at hskipped
  obtain ⟨a, b, c, rfl⟩ := List.length_eq_three.1 hlength
  simp only [List.map_cons, List.map_nil, Option.map_some, List.cons.injEq, Option.some.injEq,
    and_true] at hskipped
  obtain ⟨ha, hb, hc⟩ := hskipped
  obtain ⟨_, h₀, -, hsingle₀, -⟩ := heach 0 "" rfl
  obtain ⟨_, h₁, -, hsingle₁, -⟩ := heach 1 "a.xsd" rfl
  obtain ⟨_, h₂, hpath, -, -⟩ := heach 2 "b.xsd" rfl
  cases h₀
  cases h₁
  cases h₂
  exact ⟨s, c, hrun, by rw [hreports, ← hsingle₀ ha, ← hsingle₁ hb]; rfl, hpath, hc⟩

end Crew

end XmlSchema
