import Mathlib
import Lexicon.Conformance.Run

namespace Lexicon.Conformance

open Text (Bytes)

/-- What a check asks of an output. -/
def Check.Holds : Check → Bytes → Prop
  | any, _ => True
  | contains needle, output => needle <:+: output
  | notContains needle, output => ¬needle <:+: output
  | matching pattern, output => pattern.isMatch output = true
  | custom accepts, output => accepts output = true

theorem Check.accepts_iff (k : Check) (output : Bytes) :
    k.accepts output = true ↔ k.Holds output := by
  cases k with
  | any => simp [accepts, Holds]
  | contains needle => exact Text.occursIn_iff
  | notContains needle =>
    change (!Text.occursIn needle output) = true ↔ ¬needle <:+: output
    rw [Bool.not_eq_true', ← Text.occursIn_iff, Bool.not_eq_true]
  | matching pattern => exact Iff.rfl
  | custom accepts => exact Iff.rfl

/-- What an expectation asks of the code of a process; a process that a signal ended has none. -/
def ExitExpectation.Met : ExitExpectation → Option Int32 → Prop
  | zero, status => status = some 0
  | nonZero, status => status ≠ some 0
  | code value, status => status = some value

namespace ExitExpectation

theorem accepts_iff (e : ExitExpectation) (status : Option Int32) :
    e.accepts status = true ↔ e.Met status := by
  cases e with
  | zero => exact beq_iff_eq
  | nonZero => exact bne_iff_ne
  | code value => exact beq_iff_eq

/-- Death by a signal meets the expectation of failure and no other one. -/
theorem accepts_none_iff (e : ExitExpectation) : e.accepts none = true ↔ e = nonZero := by
  rw [accepts_iff]
  cases e <;> simp [Met]

end ExitExpectation

namespace Case

def MeantForHere (c : Case) : Prop := ∀ p, c.onlyOn = some p → p = Platform.here

theorem appliesHere_iff (c : Case) : c.appliesHere = true ↔ c.MeantForHere := by
  unfold appliesHere MeantForHere
  cases c.onlyOn <;> simp

/-- What is to become of a case, by what came of starting its program. -/
inductive Becomes (c : Case) (command : String) (result : Except OsError Ending) : Outcome → Prop
  | elsewhere : ¬c.MeantForHere → Becomes c command result .skipped
  | notStarted {e : OsError} : c.MeantForHere → result = .error e →
      Becomes c command result (.failed (.spawn command e.message))
  | fine {ending : Ending} : c.MeantForHere → result = .ok ending →
      c.check.Holds (normalizeOutput ending.stdout ending.stderr) → c.exit.Met ending.code →
      Becomes c command result .passed
  | wrong {ending : Ending} {predicateFailed : Bool} {exit : Option ExitMismatch} :
      c.MeantForHere → result = .ok ending →
      ¬(c.check.Holds (normalizeOutput ending.stdout ending.stderr) ∧ c.exit.Met ending.code) →
      (predicateFailed = true ↔ ¬c.check.Holds (normalizeOutput ending.stdout ending.stderr)) →
      (∀ m, exit = some m ↔ ¬c.exit.Met ending.code ∧ m = ⟨c.exit, ending.code⟩) →
      Becomes c command result
        (.failed (.run command (normalizeOutput ending.stdout ending.stderr) predicateFailed exit))

theorem mismatch?_eq_some_iff (c : Case) (status : Option Int32) (m : ExitMismatch) :
    c.mismatch? status = some m ↔ ¬c.exit.Met status ∧ m = ⟨c.exit, status⟩ := by
  rw [← ExitExpectation.accepts_iff, mismatch?]
  by_cases h : c.exit.accepts status = true
  · simp [h]
  · simp [h, eq_comm]

/-- The flag and the mismatch are set apart from each other, each by its own condition. -/
theorem outcomeOf_becomes {c : Case} (hhere : c.MeantForHere) (command : String)
    (result : Except OsError Ending) : c.Becomes command result (c.outcomeOf command result) := by
  cases result with
  | error e => exact .notStarted hhere rfl
  | ok ending =>
    have hcheck : (!c.check.accepts (normalizeOutput ending.stdout ending.stderr)) = true ↔
        ¬c.check.Holds (normalizeOutput ending.stdout ending.stderr) := by
      rw [← Check.accepts_iff, Bool.not_eq_true', Bool.not_eq_true]
    have hexit : (c.mismatch? ending.code).isSome = true ↔ ¬c.exit.Met ending.code := by
      simp only [Option.isSome_iff_exists, mismatch?_eq_some_iff, exists_and_left, exists_eq,
        and_true]
    unfold outcomeOf
    dsimp only
    -- either condition alone is enough to fail
    split
    · next h =>
      rw [Bool.or_eq_true, hcheck, hexit] at h
      refine .wrong hhere rfl ?_ hcheck fun m => mismatch?_eq_some_iff c ending.code m
      rintro ⟨hholds, hmet⟩
      rcases h with h | h
      · exact h hholds
      · exact h hmet
    · next h =>
      rw [Bool.or_eq_true, hcheck, hexit, not_or, not_not, not_not] at h
      exact .fine hhere rfl h.1 h.2

variable {σ : Type}

def result (launch : Launcher σ) (executable : String) (c : Case) (world : σ) :
    Except OsError Ending :=
  (launch (c.program.resolve executable) c.args world).1

def reportOf (executable : String) (c : Case) (result : Except OsError Ending) : CaseReport :=
  ⟨c.name, if c.appliesHere then c.outcomeOf (c.command executable) result else .skipped⟩

theorem run_fst (launch : Launcher σ) (executable : String) (c : Case) (world : σ) :
    (c.run launch executable world).1 =
      c.reportOf executable (c.result launch executable world) := by
  unfold run reportOf
  split <;> rfl

theorem reportOf_becomes (executable : String) (c : Case) (result : Except OsError Ending) :
    ∃ outcome, c.reportOf executable result = ⟨c.name, outcome⟩ ∧
      c.Becomes (c.command executable) result outcome := by
  refine ⟨_, rfl, ?_⟩
  by_cases h : c.appliesHere = true
  · rw [if_pos h]
    exact outcomeOf_becomes ((appliesHere_iff c).mp h) _ _
  · rw [if_neg h]
    exact .elsewhere (mt (appliesHere_iff c).mpr h)

end Case

section
variable {σ : Type} (launch : Launcher σ) (executable : String)

/-- The world that is left when cases were taken one after the other. -/
def worldAfter (world : σ) (taken : List Case) : σ :=
  taken.foldl (fun world c => (c.run launch executable world).2) world

theorem worldAfter_concat (world : σ) (taken : List Case) (c : Case) :
    worldAfter launch executable world (taken ++ [c]) =
      (c.run launch executable (worldAfter launch executable world taken)).2 := by
  rw [worldAfter, List.foldl_append]
  rfl

/-- No case sees what the others do. Whichever of the others were taken before it, and in whatever
order, its program gives what it gives at the start. -/
def Independent (cases : List Case) (world : σ) : Prop :=
  ∀ (i : Fin cases.length) (others : List (Fin cases.length)), (i :: others).Nodup →
    (cases.get i).MeantForHere →
    (cases.get i).result launch executable
        (worldAfter launch executable world (others.map fun j => cases.get j)) =
      (cases.get i).result launch executable world

end

def turn {σ : Type} (launch : Launcher σ) (executable : String) (cases : List Case)
    (i : Fin cases.length) : StateM σ (Fin cases.length × CaseReport) := do
  return (i, ← (cases.get i).run launch executable)

theorem mapM_cons_apply {σ α β : Type} (f : α → StateM σ β) (x : α) (xs : List α) (world : σ) :
    (x :: xs).mapM f world =
      ((f x world).1 :: (xs.mapM f (f x world).2).1, (xs.mapM f (f x world).2).2) := by
  rw [List.mapM_cons]
  rfl

/-- Results that were gathered under their positions, in whatever order, are found at each. -/
theorem filterMap_lookup {n : Nat} {β : Type} (f : Fin n → β) {order : List (Fin n)}
    (hperm : order.Perm (List.finRange n)) :
    (List.finRange n).filterMap (fun i => List.lookup i (order.map fun j => (j, f j))) =
      (List.finRange n).map f := by
  have hlookup : ∀ i ∈ order, List.lookup i (order.map fun j => (j, f j)) = some (f i) := by
    intro i hi
    clear hperm
    induction order with
    | nil => exact absurd hi List.not_mem_nil
    | cons j order ih =>
      rw [List.map_cons, List.lookup_cons]
      by_cases hij : i = j
      · rw [beq_iff_eq.mpr hij, hij]
      · rw [beq_eq_false_iff_ne.mpr hij]
        exact ih ((List.mem_cons.mp hi).resolve_left hij)
  -- the order takes every position, so that no lookup fails
  have hall : ∀ i ∈ List.finRange n,
      List.lookup i (order.map fun j => (j, f j)) = (some ∘ f) i :=
    fun i hi => hlookup i (hperm.mem_iff.mpr hi)
  rw [List.filterMap_congr hall, List.filterMap_eq_map]

namespace Report

theorem passed_add_failed_add_skipped (r : Report) :
    r.passed + r.failed + r.skipped = r.cases.length := by
  unfold passed failed skipped count
  induction r.cases with
  | nil => rfl
  | cons c rest ih =>
    rw [List.length_cons, ← ih]
    cases hc : c.outcome <;> simp [hc] <;> omega

/-- No more cases are skipped than there are. -/
theorem summary?_eq (r : Report) (p : Palette) : r.summary? p = some
    (if r.allPassed then r.successLine p else r.failureLine p (r.cases.length - r.skipped)) := by
  have hcount := r.passed_add_failed_add_skipped
  have hskipped : r.skipped ≤ r.cases.length := by omega
  rw [summary?, Bounded.minus?_of_le hskipped]
  split_ifs <;> rfl

theorem lines?_eq (r : Report) (p : Palette) : ∃ last, r.summary? p = some last ∧
    r.lines? p = some (r.cases.flatMap (·.lines p) ++ [last]) := by
  refine ⟨_, r.summary?_eq p, ?_⟩
  rw [lines?, summary?_eq]
  rfl

/-- Every report can be shown. -/
theorem exists_render (r : Report) (color : Bool) : ∃ text, r.render? color = some text := by
  obtain ⟨last, -, hlines⟩ := r.lines?_eq (if color then .color else .plain)
  rw [render?, hlines]
  exact ⟨_, rfl⟩

theorem exitCode_eq_zero_iff (r : Report) :
    r.exitCode = 0 ↔ ∀ c ∈ r.cases, c.outcome ≠ .skipped → c.outcome = .passed := by
  have hcode : r.exitCode = 0 ↔ r.failed = 0 := by
    unfold exitCode allPassed
    by_cases h : r.failed = 0 <;> simp [h]
  rw [hcode, failed, count, List.length_eq_zero_iff, List.filter_eq_nil_iff]
  apply forall₂_congr
  intro c _
  cases c.outcome <;> simp

section
variable {σ : Type} {launch : Launcher σ} {executable : String} {cases : List Case} {world : σ}
  (h : Independent launch executable cases world)
include h

/-- Taking one more case reports what its program gives at the start. -/
theorem turn_fst {i : Fin cases.length} {taken : List (Fin cases.length)}
    (hnodup : (i :: taken).Nodup) :
    (turn launch executable cases i
        (worldAfter launch executable world (taken.map fun j => cases.get j))).1 =
      (i, (cases.get i).reportOf executable ((cases.get i).result launch executable world)) := by
  change (i, ((cases.get i).run launch executable _).1) = _
  rw [Case.run_fst]
  by_cases hhere : (cases.get i).appliesHere = true
  · rw [h i taken hnodup ((Case.appliesHere_iff _).mp hhere)]
  · -- a case that is passed over starts no program
    unfold Case.reportOf
    rw [if_neg hhere, if_neg hhere]

/-- Whatever was taken before, the cases that remain are reported as they would be at the start. -/
theorem mapM_turn (taken rest : List (Fin cases.length)) (hnodup : (taken ++ rest).Nodup) :
    rest.mapM (turn launch executable cases)
        (worldAfter launch executable world (taken.map fun j => cases.get j)) =
      (rest.map fun i =>
          (i, (cases.get i).reportOf executable ((cases.get i).result launch executable world)),
        worldAfter launch executable world ((taken ++ rest).map fun j => cases.get j)) := by
  induction rest generalizing taken with
  | nil =>
    rw [List.append_nil]
    rfl
  | cons i rest ih =>
    -- what was taken before and this one are still different cases
    have hi : (i :: taken).Nodup := by
      have hsub : (taken ++ [i]).Sublist (taken ++ i :: rest) :=
        (List.singleton_sublist.mpr List.mem_cons_self).append_left taken
      exact (List.perm_append_singleton i taken).nodup_iff.mp (hnodup.sublist hsub)
    have hnext : (turn launch executable cases i
        (worldAfter launch executable world (taken.map fun j => cases.get j))).2 =
        worldAfter launch executable world ((taken ++ [i]).map fun j => cases.get j) := by
      rw [List.map_append]
      exact (worldAfter_concat launch executable world _ _).symm
    -- the cases that remain start from the world that this one leaves behind
    have hrest := ih (taken ++ [i]) (by rwa [List.append_assoc])
    rw [List.append_assoc] at hrest
    rw [mapM_cons_apply, hnext, hrest, turn_fst h hi]
    rfl

/-- The report of a run is the list of what the cases give at the start, in the order of their
declaration. -/
theorem ofRun_fst (schedule : Schedule cases.length) :
    (ofRun launch executable cases schedule world).1 =
      ⟨cases.map fun c => c.reportOf executable (c.result launch executable world)⟩ := by
  have hnodup : schedule.order.Nodup := schedule.perm.nodup_iff.mpr (List.nodup_finRange _)
  have hturns := mapM_turn h [] schedule.order hnodup
  have hdeclared : (List.finRange cases.length).map (fun i => cases.get i) = cases :=
    List.map_get_finRange cases
  calc
    (ofRun launch executable cases schedule world).1 =
        ⟨(List.finRange cases.length).filterMap fun i =>
          List.lookup i (schedule.order.mapM (turn launch executable cases) world).1⟩ := rfl
    _ = ⟨(List.finRange cases.length).map fun i =>
          (cases.get i).reportOf executable ((cases.get i).result launch executable world)⟩ := by
      change schedule.order.mapM (turn launch executable cases) world = _ at hturns
      rw [hturns, filterMap_lookup _ schedule.perm]
    _ = ⟨((List.finRange cases.length).map fun i => cases.get i).map fun c =>
          c.reportOf executable (c.result launch executable world)⟩ := by
      rw [List.map_map]
      rfl
    _ = _ := by rw [hdeclared]

end

/-- What a report says of cases, if their programs give these results. -/
structure Accounts (executable : String) (cases : List Case)
    (result : Case → Except OsError Ending) (r : Report) : Prop where
  length : r.cases.length = cases.length
  /-- The case at each position, under its own name. -/
  outcomes : ∀ (i : Nat) (c : Case), cases[i]? = some c → ∃ outcome,
    r.cases[i]? = some ⟨c.name, outcome⟩ ∧ c.Becomes (c.command executable) (result c) outcome
  counts : r.passed + r.failed + r.skipped = cases.length
  exitCode : r.exitCode = 0 ↔ ∀ c ∈ r.cases, c.outcome ≠ .skipped → c.outcome = .passed

theorem accounts_map_reportOf (executable : String) (cases : List Case)
    (result : Case → Except OsError Ending) :
    Accounts executable cases result ⟨cases.map fun c => c.reportOf executable (result c)⟩ where
  length := List.length_map _
  outcomes i c hc := by
    obtain ⟨outcome, hreport, hbecomes⟩ := c.reportOf_becomes executable (result c)
    refine ⟨outcome, ?_, hbecomes⟩
    rw [List.getElem?_map, hc, Option.map_some, hreport]
  counts := by
    rw [passed_add_failed_add_skipped]
    exact List.length_map _
  exitCode := exitCode_eq_zero_iff _

/-- Cases that do not see each other are reported one by one in the order of their declaration, each
by what its own program gives, and the report is the same in whatever order they are taken. -/
theorem ofRun_accounts {σ : Type} {launch : Launcher σ} {executable : String} {cases : List Case}
    {world : σ} (h : Independent launch executable cases world)
    (schedule : Schedule cases.length) :
    (ofRun launch executable cases schedule world).1 =
        (ofRun launch executable cases (.declared _) world).1 ∧
      Accounts executable cases (fun c => c.result launch executable world)
        (ofRun launch executable cases schedule world).1 ∧
      ∀ e : ExitExpectation, e.Met none ↔ e = .nonZero := by
  refine ⟨?_, ?_, fun e => ?_⟩
  · rw [ofRun_fst h, ofRun_fst h]
  · rw [ofRun_fst h]
    exact accounts_map_reportOf executable cases _
  · rw [← e.accepts_iff, e.accepts_none_iff]

end Report

theorem independent_of_forall {σ : Type} {launch : Launcher σ}
    (h : ∀ program args world world',
      (launch program args world).1 = (launch program args world').1)
    (executable : String) (cases : List Case) (world : σ) :
    Independent launch executable cases world :=
  fun _ _ _ _ => h _ _ _ _

def sampleAnswer (program : String) : Except OsError Ending :=
  if program = "/bin/absent" then .error .noEntry
  else if program = "/bin/crash" then .ok ⟨[0x6F, 0x75, 0x74], [], none⟩
  else .ok ⟨[0x6F, 0x6B, 0x0D, 0x0A], [], some 0⟩

/-- The world counts the programs that were started in it. -/
def countingLauncher : Launcher Nat := fun program _ => do
  modify (· + 1)
  return sampleAnswer program

/-- A case for each kind of outcome, with two causes of failure in one of them. -/
def Case.sampler : List Case := [
  { name := "prints", check := .contains [0x6B, 0x0A] },
  { name := "dies", program := .path "/bin/crash", check := .notContains [] },
  { name := "is missing", program := .path "/bin/absent" },
  { name := "elsewhere", onlyOn := some .windows }]

def Schedule.backwards (n : Nat) : Schedule n := ⟨(List.finRange n).reverse, List.reverse_perm _⟩

theorem Report.sampler_accounts :
    Independent countingLauncher "/bin/adept" Case.sampler 0 ∧
      (ofRun countingLauncher "/bin/adept" Case.sampler (.backwards _) 0).1 =
          (ofRun countingLauncher "/bin/adept" Case.sampler (.declared _) 0).1 ∧
        Accounts "/bin/adept" Case.sampler (fun c => c.result countingLauncher "/bin/adept" 0)
          (ofRun countingLauncher "/bin/adept" Case.sampler (.backwards _) 0).1 ∧
        ∀ e : ExitExpectation, e.Met none ↔ e = .nonZero := by
  have hindependent : Independent countingLauncher "/bin/adept" Case.sampler 0 := by
    apply independent_of_forall
    intro program args world world'
    rfl
  exact ⟨hindependent, ofRun_accounts hindependent _⟩

/-- One case passes, one is skipped, and both others fail. -/
example :
    (Report.ofRun countingLauncher "/bin/adept" Case.sampler (.backwards _) 0).1.exitCode = 1 := by
  cbv

end Lexicon.Conformance
