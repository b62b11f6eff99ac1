import XmlSchema.Proofs.Processing.Crew

/-!
# Files in order

To process the files of a run in order, with one worker, is one of the
schedules of a crew: the worker takes each file when the one before it is over.
-/

namespace XmlSchema.Crew

open Attempt

variable {p : Processor} {t : FileTree} {s s' : Crew} {i : Nat}

theorem run_cons {move : Move} {rest : List Move} (hstep : step p t s move = some s') :
    run p t (move :: rest) s = run p t rest s' := by
  unfold run
  rw [List.foldlM_cons, hstep]
  rfl

theorem run_append {moves rest : List Move} (hmoves : run p t moves s = some s') :
    run p t (moves ++ rest) s = run p t rest s' := by
  unfold run at hmoves ⊢
  rw [List.foldlM_append, hmoves]
  rfl

theorem turn_turn (s : Crew) (i : Nat) (first second : Turn) :
    (s.turn i first).turn i second = s.turn i second := by
  unfold turn
  rw [List.set_set]

/-- A cache can lose what it was about to lose. -/
theorem exists_losing (ws : Workspace) : ∃ evictions, ws.losing evictions = ws := by
  obtain ⟨collection, cache, elsewhere, nextTicket, requests, met⟩ := ws
  cases cache with
  | none => exact ⟨[], rfl⟩
  | some cache => exact ⟨cache.evictions, rfl⟩

theorem exists_step_work (path : String) (worker : Worker) (known : List (String × String))
    (ws : Workspace) (hi : i < s.turns.length) :
    ∃ evictions, step p t (s.turn i (.building path worker known ws)) (.work i evictions) =
      some (s.turn i (p.advance t path worker ws known)) := by
  obtain ⟨evictions, hlosing⟩ := exists_losing ws
  have hturn : (s.turn i (.building path worker known ws)).turns[i]? =
      some (.building path worker known ws) := List.getElem?_set_self hi
  refine ⟨evictions, ?_⟩
  unfold step
  dsimp only
  rw [hturn]
  dsimp only
  rw [hlosing, turn_turn]

/-- A worker that is alone at work brings its document to the end. -/
theorem exists_moves_work (path : String) (worker : Worker) (known : List (String × String))
    (ws : Workspace) (hi : i < s.turns.length) :
    ∃ moves, run p t moves (s.turn i (.building path worker known ws)) =
      some (s.turn i (p.conclude path worker (exec (p.remaining t path known) ws))) := by
  induction known generalizing ws with
  | nil =>
      obtain ⟨evictions, hstep⟩ := exists_step_work (p := p) (t := t) path worker [] ws hi
      refine ⟨[.work i evictions], ?_⟩
      rw [run_cons hstep, p.advance_nil, p.exec_remaining_nil]
      rcases exec (Processor.buildEntry (p.environment t) t path) ws with ⟨e | a, later⟩ <;> rfl
  | cons entry rest ih =>
      obtain ⟨evictions, hstep⟩ :=
        exists_step_work (p := p) (t := t) path worker (entry :: rest) ws hi
      rw [p.advance_cons] at hstep
      rw [p.exec_remaining_cons]
      rcases hload : exec (p.loadKnown (p.environment t) [entry]) ws with ⟨e | a, later⟩
      · rw [hload] at hstep
        exact ⟨[.work i evictions], run_cons hstep⟩
      · rw [hload] at hstep
        obtain ⟨moves, hmoves⟩ := ih later
        exact ⟨.work i evictions :: moves, (run_cons hstep).trans hmoves⟩

/-- A crew of one worker that has dealt with some files. -/
def alone (worker : Worker) (reports : List DocumentReport) (paths : List String) (flag : Bool) :
    Crew where
  idle := [worker]
  turns := reports.map .ended ++ paths.map .waiting
  flag

theorem getElem?_alone (worker : Worker) (reports : List DocumentReport) (path : String)
    (rest : List String) (flag : Bool) :
    (alone worker reports (path :: rest) flag).turns[reports.length]? = some (.waiting path) := by
  simp [alone]

theorem set_alone (reports : List DocumentReport) (path : String) (rest : List String)
    (report : DocumentReport) :
    (reports.map Turn.ended ++ (path :: rest).map Turn.waiting).set reports.length (.ended report) =
      (reports ++ [report]).map Turn.ended ++ rest.map Turn.waiting := by
  rw [List.set_append_right _ _ (by simp)]
  simp

/-- The next file is dealt with as it is in order. -/
theorem exists_moves_processFile (hdir : p.outputDirectory = none) (worker : Worker)
    (written : List String) (reports : List DocumentReport) (path : String)
    (rest : List String) (flag : Bool) :
    ∃ moves later report,
      p.processFile path ⟨t, worker, written⟩ = (report, ⟨t, later, written⟩) ∧
        run p t moves (alone worker reports (path :: rest) flag) =
          some (alone later (reports ++ [report]) rest (flag || report.status.isFailed)) := by
  obtain ⟨later, report, hprocessed, hconcluded⟩ :=
    p.exists_processFile hdir path ⟨t, worker, written⟩
  dsimp only at hprocessed hconcluded
  have hlt : reports.length < (alone worker reports (path :: rest) flag).turns.length := by
    simp [alone]
  have htake : step p t (alone worker reports (path :: rest) flag) (.take 0 reports.length false) =
      some ({ alone worker reports (path :: rest) flag with idle := [] }.turn reports.length
        (.building path worker p.knownNamespaces worker.workspace)) := by
    unfold step
    dsimp only
    rw [getElem?_alone]
    simp [alone]
  obtain ⟨moves, hwork⟩ := exists_moves_work (p := p) (t := t)
    (s := { alone worker reports (path :: rest) flag with idle := [] })
    path worker p.knownNamespaces worker.workspace hlt
  rw [p.remaining_knownNamespaces, hconcluded] at hwork
  have hhandIn : step p t ({ alone worker reports (path :: rest) flag with idle := [] }.turn
        reports.length (.done later report)) (.handIn reports.length) =
      some (alone later (reports ++ [report]) rest (flag || report.status.isFailed)) := by
    have hdone : ({ alone worker reports (path :: rest) flag with idle := [] }.turn
        reports.length (.done later report)).turns[reports.length]? =
          some (.done later report) := List.getElem?_set_self hlt
    unfold step
    dsimp only
    rw [hdone]
    unfold turn alone
    dsimp only
    rw [List.set_set, set_alone]
  refine ⟨.take 0 reports.length false :: (moves ++ [.handIn reports.length]), later, report,
    hprocessed, ?_⟩
  rw [run_cons htake, run_append hwork, run_cons hhandIn]
  rfl

theorem exists_moves_skip (hfast : p.failFast = true) (worker : Worker)
    (reports : List DocumentReport) (paths : List String) :
    ∃ moves, run p t moves (alone worker reports paths true) =
      some (alone worker (reports ++ paths.map fun path =>
        { path, status := .skipped Processor.skipReason }) [] true) := by
  induction paths generalizing reports with
  | nil => exact ⟨[], by rw [List.map_nil, List.append_nil]; rfl⟩
  | cons path rest ih =>
      obtain ⟨moves, hmoves⟩ := ih
        (reports ++ [{ path, status := .skipped Processor.skipReason }])
      have htake : step p t (alone worker reports (path :: rest) true)
          (.take 0 reports.length true) =
        some (alone worker (reports ++ [{ path, status := .skipped Processor.skipReason }]) rest
          true) := by
        unfold step
        dsimp only
        rw [getElem?_alone]
        unfold turn alone
        simp [hfast]
      refine ⟨.take 0 reports.length true :: moves, ?_⟩
      rw [run_cons htake, hmoves, List.append_assoc]
      rfl

theorem exists_moves_rest (hdir : p.outputDirectory = none) (worker : Worker)
    (written : List String) (reports : List DocumentReport) (paths : List String) (flag : Bool)
    (hflag : (p.failFast && flag) = false) :
    ∃ moves s, run p t moves (alone worker reports paths flag) = some s ∧
      s.turns = (reports ++ (p.processAll paths ⟨t, worker, written⟩).1).map .ended := by
  induction paths generalizing worker reports flag with
  | nil => exact ⟨[], _, rfl, by simp [alone, Processor.processAll]⟩
  | cons path rest ih =>
      obtain ⟨moves, later, report, hprocessed, hmoves⟩ :=
        exists_moves_processFile hdir (t := t) worker written reports path rest flag
      unfold Processor.processAll
      rw [hprocessed]
      dsimp only
      cases hstop : p.failFast && report.status.isFailed with
      | true =>
          obtain ⟨hfast, hfailed⟩ := Bool.and_eq_true_iff.1 hstop
          rw [hfailed, Bool.or_true] at hmoves
          obtain ⟨skips, hskips⟩ := exists_moves_skip hfast (t := t) later (reports ++ [report]) rest
          refine ⟨moves ++ skips, _, (run_append hmoves).trans hskips, ?_⟩
          simp [alone]
      | false =>
          have hflag' : (p.failFast && (flag || report.status.isFailed)) = false := by
            rw [Bool.and_or_distrib_left, hflag, hstop]
            rfl
          obtain ⟨others, s, hothers, hs⟩ := ih later (reports ++ [report]) _ hflag'
          refine ⟨moves ++ others, s, (run_append hmoves).trans hothers, ?_⟩
          rw [hs, List.append_assoc]
          rfl

/-- To process the files in order is one of the schedules. -/
theorem exists_moves_processAll (hdir : p.outputDirectory = none) (t : FileTree)
    (paths : List String) :
    ∃ moves s, run p t moves (assemble p paths) = some s ∧
      s.turns = (p.processAll paths (p.bench t)).1.map .ended :=
  exists_moves_rest hdir (Worker.fresh p.cacheCapacity) [] [] paths false (Bool.and_false _)

end XmlSchema.Crew
