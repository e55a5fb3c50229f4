import Inclusion.Failure
import Mathlib.Data.List.Forall2

/-! Multiproofs over a plain queue. Values wait in one line: a step takes the first of them, then the
next one or a node of the proof, and what it makes of the two goes to the end of the line. The values
may be of any type, so that one run serves for digests, for places in a tree and for plans. Whether a
run succeeds, and at which step it fails, is a matter of numbers alone where values can always be
combined. -/

set_option autoImplicit false

namespace Inclusion

/-- Two results that are failures for the same reason, or values that are related. -/
inductive Alike {α β : Type} (R : α → β → Prop) : Except Failure α → Except Failure β → Prop where
  | ok {first : α} {second : β} : R first second → Alike R (.ok first) (.ok second)
  | error (failure : Failure) : Alike R (.error failure) (.error failure)

namespace Alike
variable {α β γ δ : Type} {R : α → β → Prop} {Q : γ → δ → Prop}

theorem bind {first : Except Failure α} {second : Except Failure β}
    {next : α → Except Failure γ} {other : β → Except Failure δ} (alike : Alike R first second)
    (rest : ∀ a b, R a b → Alike Q (next a) (other b)) : Alike Q (first >>= next) (second >>= other) := by
  cases alike with
  | ok related => exact rest _ _ related
  | error failure => exact .error failure

theorem exists_of_ok {first : Except Failure α} {second : Except Failure β} (alike : Alike R first second)
    {value : α} (ok : first = .ok value) : ∃ other, second = .ok other ∧ R value other := by
  cases alike with
  | ok related =>
    cases ok
    exact ⟨_, rfl, related⟩
  | error failure => cases ok

theorem exists_of_ok_right {first : Except Failure α} {second : Except Failure β}
    (alike : Alike R first second) {value : β} (ok : second = .ok value) :
    ∃ other, first = .ok other ∧ R other value := by
  cases alike with
  | ok related =>
    cases ok
    exact ⟨_, rfl, related⟩
  | error failure => cases ok

end Alike

def Paired {α β γ δ : Type} (R : α → β → Prop) (Q : γ → δ → Prop) (first : α × γ) (second : β × δ) :
    Prop :=
  R first.1 second.1 ∧ Q first.2 second.2

/-- The values that wait to be combined, the nodes not read so far, and the values made. -/
structure Queue (α : Type) where
  pending : List α
  nodes : List α
  made : List α

namespace Queue
variable {α : Type}

def nextPending (step : Nat) (queue : Queue α) : Except Failure (α × Queue α) :=
  match queue.pending with
  | [] => .error (.multiProof (.rootChild step))
  | first :: pending => .ok (first, { queue with pending })

def nextNode (total : Nat) (queue : Queue α) : Except Failure (α × Queue α) :=
  -- What is told in the end is the number of all nodes, of which those read are gone.
  match queue.nodes with
  | [] => .error (.multiProof (.proofLength (total + 1) total))
  | node :: nodes => .ok (node, { queue with nodes })

def nextFlagged (total step : Nat) (flag : Bool) (queue : Queue α) : Except Failure (α × Queue α) :=
  if flag then queue.nextPending step else queue.nextNode total

def draw (total step : Nat) (flag : Bool) (queue : Queue α) :
    Except Failure ((α × α) × Queue α) := do
  let (first, queue) ← queue.nextPending step
  let (second, queue) ← queue.nextFlagged total step flag
  return ((first, second), queue)

def push (queue : Queue α) (value : α) : Queue α :=
  ⟨queue.pending ++ [value], queue.nodes, queue.made ++ [value]⟩

section
variable (join : Nat → α → α → Except Failure α) (total : Nat)

def advance (step : Nat) (flag : Bool) (queue : Queue α) : Except Failure (Queue α) := do
  let ((first, second), queue) ← queue.draw total step flag
  let value ← join step first second
  return queue.push value

def run : Nat → List Bool → Queue α → Except Failure (Queue α)
  | _, [], queue => .ok queue
  | step, flag :: flags, queue => do
    let queue ← queue.advance join total step flag
    run (step + 1) flags queue

end

/-! ## What a step does -/

section
variable (join : Nat → α → α → Except Failure α) (total step : Nat) (nodes made : List α)

theorem advance_empty (flag : Bool) :
    advance join total step flag ⟨[], nodes, made⟩ = .error (.multiProof (.rootChild step)) := rfl

theorem advance_single (first : α) :
    advance join total step true ⟨[first], nodes, made⟩ = .error (.multiProof (.rootChild step)) := rfl

theorem advance_drained (first : α) (rest : List α) :
    advance join total step false ⟨first :: rest, [], made⟩ =
      .error (.multiProof (.proofLength (total + 1) total)) := rfl

theorem advance_pending (first second : α) (rest : List α) :
    advance join total step true ⟨first :: second :: rest, nodes, made⟩ =
      (join step first second).map (push ⟨rest, nodes, made⟩) := by
  change (join step first second >>= fun value => .ok (push ⟨rest, nodes, made⟩ value)) = _
  cases join step first second <;> rfl

theorem advance_node (first second : α) (rest : List α) :
    advance join total step false ⟨first :: rest, second :: nodes, made⟩ =
      (join step first second).map (push ⟨rest, nodes, made⟩) := by
  change (join step first second >>= fun value => .ok (push ⟨rest, nodes, made⟩ value)) = _
  cases join step first second <;> rfl

end

inductive Step (join : Nat → α → α → Except Failure α) (step : Nat) :
    Bool → Queue α → Queue α → Prop where
  | pending {first second value : α} {rest nodes made : List α} :
      join step first second = .ok value →
      Step join step true ⟨first :: second :: rest, nodes, made⟩ (push ⟨rest, nodes, made⟩ value)
  | node {first second value : α} {rest nodes made : List α} :
      join step first second = .ok value →
      Step join step false ⟨first :: rest, second :: nodes, made⟩ (push ⟨rest, nodes, made⟩ value)

variable {join : Nat → α → α → Except Failure α} {total : Nat}

theorem step_of_map {step : Nat} {first second : α} {queue next : Queue α}
    (joined : (join step first second).map queue.push = .ok next) :
    ∃ value, join step first second = .ok value ∧ queue.push value = next := by
  cases same : join step first second with
  | ok value => exact ⟨value, rfl, by simpa [same, Except.map] using joined⟩
  | error failure => simp [same, Except.map] at joined

theorem advance_eq_ok_iff {step : Nat} {flag : Bool} {queue next : Queue α} :
    queue.advance join total step flag = .ok next ↔ Step join step flag queue next := by
  constructor
  · -- Only two shapes of the queue let a step succeed, one for each flag.
    intro advanced
    match flag, queue with
    | flag, ⟨[], nodes, made⟩ => cases flag <;> cases advanced
    | true, ⟨[first], nodes, made⟩ => cases advanced
    | false, ⟨first :: rest, [], made⟩ => cases advanced
    | true, ⟨first :: second :: rest, nodes, made⟩ =>
      rw [advance_pending] at advanced
      obtain ⟨value, joined, rfl⟩ := step_of_map advanced
      exact .pending joined
    | false, ⟨first :: rest, second :: nodes, made⟩ =>
      rw [advance_node] at advanced
      obtain ⟨value, joined, rfl⟩ := step_of_map advanced
      exact .node joined
  · rintro (joined | joined)
    · simp [advance_pending, joined, Except.map]
    · simp [advance_node, joined, Except.map]

-- Wherever its second value comes from, a step takes two values out of the queue and puts one in.
theorem Step.exists_perm {step : Nat} {flag : Bool} {queue next : Queue α}
    (taken : Step join step flag queue next) :
    ∃ first second value others, join step first second = .ok value ∧
      (queue.pending ++ queue.nodes).Perm (first :: second :: others) ∧
      (next.pending ++ next.nodes).Perm (value :: others) ∧ next.made = queue.made ++ [value] := by
  cases taken with
  | @pending first second value rest nodes made joined =>
    refine ⟨first, second, value, rest ++ nodes, joined, .refl _, ?_, rfl⟩
    simp [push]
  | @node first second value rest nodes made joined =>
    refine ⟨first, second, value, rest ++ nodes, joined, ?_, ?_, rfl⟩
    · exact List.perm_middle.cons first
    · simp [push]

/-! ## Whole runs -/

theorem run_cons_of_step {step : Nat} {flag : Bool} {flags : List Bool} {queue next : Queue α}
    (taken : Step join step flag queue next) :
    run join total step (flag :: flags) queue = run join total (step + 1) flags next := by
  change (queue.advance join total step flag >>= run join total (step + 1) flags) = _
  rw [advance_eq_ok_iff.mpr taken]
  rfl

theorem run_cons_of_error {step : Nat} {flag : Bool} {flags : List Bool} {queue : Queue α}
    {failure : Failure} (failed : queue.advance join total step flag = .error failure) :
    run join total step (flag :: flags) queue = .error failure := by
  change (queue.advance join total step flag >>= run join total (step + 1) flags) = _
  rw [failed]
  rfl

theorem run_cons_eq_ok_iff {step : Nat} {flag : Bool} {flags : List Bool} {queue final : Queue α} :
    run join total step (flag :: flags) queue = .ok final ↔
      ∃ next, Step join step flag queue next ∧ run join total (step + 1) flags next = .ok final := by
  constructor
  · intro ran
    cases advanced : queue.advance join total step flag with
    | ok next =>
      have taken := advance_eq_ok_iff.mp advanced
      exact ⟨next, taken, (run_cons_of_step taken).symm.trans ran⟩
    | error failure =>
      rw [run_cons_of_error advanced] at ran
      cases ran
  · rintro ⟨next, taken, ran⟩
    exact (run_cons_of_step taken).trans ran

/-- What every step keeps, a whole run keeps. -/
theorem run_keeps {Keeps : Nat → Queue α → Prop}
    (keeps : ∀ step flag queue next, Step join step flag queue next → Keeps step queue →
      Keeps (step + 1) next) {flags : List Bool} {step : Nat} {queue final : Queue α}
    (ran : run join total step flags queue = .ok final) (start : Keeps step queue) :
    Keeps (step + flags.length) final := by
  induction flags generalizing step queue with
  | nil =>
    cases ran
    exact start
  | cons flag flags ih =>
    obtain ⟨next, taken, ran⟩ := run_cons_eq_ok_iff.mp ran
    have later := ih ran (keeps step flag queue next taken start)
    rwa [Nat.add_right_comm, Nat.add_assoc] at later

theorem count_cons_eq_add (flag other : Bool) (flags : List Bool) :
    (flag :: flags).count other = [flag].count other + flags.count other := by
  rw [← List.singleton_append, List.count_append]

theorem Step.lengths {step : Nat} {flag : Bool} {queue next : Queue α}
    (taken : Step join step flag queue next) :
    next.pending.length + [flag].count true = queue.pending.length ∧
      next.nodes.length + [flag].count false = queue.nodes.length ∧
      next.made.length = queue.made.length + 1 := by
  cases taken <;> simp [push]

/-- A true flag uses up one pending value, a false one a node, and each makes one value. -/
theorem run_lengths {flags : List Bool} {step : Nat} {queue final : Queue α}
    (ran : run join total step flags queue = .ok final) :
    final.pending.length + flags.count true = queue.pending.length ∧
      final.nodes.length + flags.count false = queue.nodes.length ∧
      final.made.length = queue.made.length + flags.length := by
  induction flags generalizing step queue with
  | nil =>
    cases ran
    simp
  | cons flag flags ih =>
    obtain ⟨next, taken, ran⟩ := run_cons_eq_ok_iff.mp ran
    obtain ⟨pending, nodes, made⟩ := taken.lengths
    obtain ⟨pending', nodes', made'⟩ := ih ran
    rw [count_cons_eq_add flag true, count_cons_eq_add flag false, List.length_cons]
    omega

theorem Step.exists_draw {step : Nat} {flag : Bool} {queue next : Queue α}
    (taken : Step join step flag queue next) (total : Nat) :
    ∃ first second rest value, queue.draw total step flag = .ok ((first, second), rest) ∧
      join step first second = .ok value ∧ next.made = queue.made ++ [value] := by
  cases taken with
  | pending joined => exact ⟨_, _, _, _, rfl, joined, rfl⟩
  | node joined => exact ⟨_, _, _, _, rfl, joined, rfl⟩

theorem made_prefix_of_run {flags : List Bool} {step : Nat} {queue final : Queue α}
    (ran : run join total step flags queue = .ok final) : queue.made <+: final.made := by
  induction flags generalizing step queue with
  | nil =>
    cases ran
    exact List.prefix_refl _
  | cons flag flags ih =>
    obtain ⟨next, taken, ran⟩ := run_cons_eq_ok_iff.mp ran
    obtain ⟨_, _, _, value, _, _, made⟩ := taken.exists_draw total
    refine List.IsPrefix.trans ?_ (ih ran)
    rw [made]
    exact List.prefix_append _ _

/-- Stop a run before one of its steps: what this step makes has its place among all that is made. -/
theorem run_at {flags : List Bool} {step : Nat} {queue final : Queue α}
    (ran : run join total step flags queue = .ok final) {number : Nat} {flag : Bool}
    (found : flags[number]? = some flag) :
    ∃ before first second rest value,
      run join total step (flags.take number) queue = .ok before ∧
      before.draw total (step + number) flag = .ok ((first, second), rest) ∧
      join (step + number) first second = .ok value ∧
      final.made[queue.made.length + number]? = some value := by
  induction flags generalizing step queue number with
  | nil => simp at found
  | cons flag' flags ih =>
    obtain ⟨next, taken, ran⟩ := run_cons_eq_ok_iff.mp ran
    obtain ⟨first, second, rest, value, drawn, joined, made⟩ := taken.exists_draw total
    cases number with
    | zero =>
      obtain rfl : flag' = flag := by simpa using found
      refine ⟨queue, first, second, rest, value, rfl, drawn, joined, ?_⟩
      -- Later steps only add to what is made here.
      obtain ⟨later, all⟩ := made_prefix_of_run ran
      rw [← all, made]
      simp
    | succ number =>
      obtain ⟨before, first, second, rest, value, reached, drawn, joined, place⟩ := ih ran found
      refine ⟨before, first, second, rest, value, ?_, ?_, ?_, ?_⟩
      · rw [List.take_succ_cons, run_cons_of_step taken, reached]
      · rwa [Nat.add_right_comm] at drawn
      · rwa [Nat.add_right_comm] at joined
      · rw [made, List.length_append, List.length_singleton] at place
        rwa [Nat.add_right_comm, Nat.add_assoc] at place

theorem run_last {flags : List Bool} (nonempty : flags ≠ []) {step : Nat} {queue final : Queue α}
    (ran : run join total step flags queue = .ok final) :
    ∃ value, final.pending.getLast? = some value ∧ final.made.getLast? = some value := by
  induction flags generalizing step queue with
  | nil => exact absurd rfl nonempty
  | cons flag flags ih =>
    obtain ⟨next, taken, ran⟩ := run_cons_eq_ok_iff.mp ran
    cases flags with
    | nil =>
      cases ran
      cases taken <;> simp [push]
    | cons flag' flags => exact ih (by simp) ran

/-- Where the values that wait run out: at once if there are none, and else at the step whose true
flag is as many in number as they are. -/
def Stalls (pending : Nat) (flags : List Bool) (step : Nat) : Prop :=
  if pending = 0 then step = 0
  else flags[step]? = some true ∧ (flags.take step).count true + 1 = pending

theorem Stalls.cons {pending : Nat} {flags : List Bool} {stall : Nat} (flag : Bool)
    (positive : 0 < pending) (stalls : Stalls pending flags stall) :
    Stalls (pending + [flag].count true) (flag :: flags) (stall + 1) := by
  unfold Stalls at stalls ⊢
  rw [if_neg (by omega)] at stalls ⊢
  obtain ⟨last, before⟩ := stalls
  refine ⟨by simpa using last, ?_⟩
  rw [List.take_succ_cons, count_cons_eq_add]
  omega

theorem Step.pending_pos {step : Nat} {flag : Bool} {queue next : Queue α}
    (taken : Step join step flag queue next) : 0 < next.pending.length := by
  cases taken <;> simp [push]

/-! ## Runs where values can always be combined -/

section
variable (joins : ∀ step first second, ∃ value, join step first second = .ok value)
include joins

variable (total) in
theorem advance_cases (step : Nat) (flag : Bool) (queue : Queue α) :
    (∃ next, Step join step flag queue next) ∨
    (queue.pending.length ≤ [flag].count true ∧
      queue.advance join total step flag = .error (.multiProof (.rootChild step))) ∨
    (queue.nodes.length < [flag].count false ∧
      queue.advance join total step flag = .error (.multiProof (.proofLength (total + 1) total))) := by
  match flag, queue with
  | flag, ⟨[], nodes, made⟩ =>
    exact .inr (.inl ⟨Nat.zero_le _, advance_empty join total step nodes made flag⟩)
  | true, ⟨[first], nodes, made⟩ =>
    exact .inr (.inl ⟨Nat.le_refl 1, advance_single join total step nodes made first⟩)
  | false, ⟨first :: rest, [], made⟩ =>
    exact .inr (.inr ⟨Nat.one_pos, advance_drained join total step made first rest⟩)
  | true, ⟨first :: second :: rest, nodes, made⟩ =>
    obtain ⟨value, joined⟩ := joins step first second
    exact .inl ⟨_, .pending joined⟩
  | false, ⟨first :: rest, second :: nodes, made⟩ =>
    obtain ⟨value, joined⟩ := joins step first second
    exact .inl ⟨_, .node joined⟩

theorem exists_run {flags : List Bool} {step : Nat} {queue : Queue α}
    (pending : flags.count true < queue.pending.length)
    (nodes : flags.count false ≤ queue.nodes.length) :
    ∃ final, run join total step flags queue = .ok final := by
  induction flags generalizing step queue with
  | nil => exact ⟨queue, rfl⟩
  | cons flag flags ih =>
    rw [count_cons_eq_add] at pending nodes
    obtain ⟨next, taken⟩ | ⟨few, _⟩ | ⟨none, _⟩ := advance_cases total joins step flag queue
    · obtain ⟨fewer, less, _⟩ := taken.lengths
      rw [run_cons_of_step taken]
      exact ih (by omega) (by omega)
    · omega
    · omega

/-- With one pending value more than there are true flags and one node for each false flag, a run
ends with one value, the last one made. -/
theorem exists_run_to_one (total step : Nat) (queue : Queue α) {flags : List Bool}
    (nonempty : flags ≠ []) (pending : flags.count true + 1 = queue.pending.length)
    (nodes : flags.count false = queue.nodes.length) :
    ∃ value made, run join total step flags queue = .ok ⟨[value], [], made⟩ ∧
      made.getLast? = some value := by
  have enough : flags.count true < queue.pending.length := by omega
  have succeeds : ∃ final, run join total step flags queue = .ok final :=
    exists_run joins enough (Nat.le_of_eq nodes)
  obtain ⟨⟨waiting, rest, made⟩, ran⟩ := succeeds
  -- The counts leave one value waiting, and it is the last one made.
  obtain ⟨value, waits, last⟩ := run_last nonempty ran
  obtain ⟨left, unread, _⟩ := run_lengths ran
  dsimp only at left unread
  obtain ⟨only, rfl⟩ := List.length_eq_one_iff.mp (show waiting.length = 1 by omega)
  obtain rfl := List.length_eq_zero_iff.mp (show rest.length = 0 by omega)
  obtain rfl : only = value := by simpa using waits
  exact ⟨only, made, ran, last⟩

theorem run_overrun {flags : List Bool} {step : Nat} {queue : Queue α}
    (pending : flags.count true < queue.pending.length)
    (nodes : queue.nodes.length < flags.count false) :
    run join total step flags queue = .error (.multiProof (.proofLength (total + 1) total)) := by
  induction flags generalizing step queue with
  | nil => simp at nodes
  | cons flag flags ih =>
    rw [count_cons_eq_add] at pending nodes
    obtain ⟨next, taken⟩ | ⟨few, _⟩ | ⟨none, failed⟩ := advance_cases total joins step flag queue
    · obtain ⟨fewer, less, _⟩ := taken.lengths
      rw [run_cons_of_step taken]
      exact ih (by omega) (by omega)
    · omega
    · exact run_cons_of_error failed

theorem run_stalls (total step : Nat) (queue : Queue α) {flags : List Bool}
    (nonempty : flags ≠ []) (pending : queue.pending.length ≤ flags.count true)
    (nodes : flags.count false ≤ queue.nodes.length) :
    ∃ stall, Stalls queue.pending.length flags stall ∧
      run join total step flags queue = .error (.multiProof (.rootChild (step + stall))) := by
  induction flags generalizing step queue with
  | nil => exact absurd rfl nonempty
  | cons flag flags ih =>
    rw [count_cons_eq_add] at pending nodes
    obtain ⟨next, taken⟩ | ⟨few, failed⟩ | ⟨none, _⟩ := advance_cases total joins step flag queue
    · obtain ⟨fewer, less, _⟩ := taken.lengths
      -- What was just made still waits, so that other flags must follow.
      have positive := taken.pending_pos
      have more : flags ≠ [] := by
        rintro rfl
        rw [List.count_nil] at pending
        omega
      have enough : flags.count false ≤ next.nodes.length := by omega
      obtain ⟨stall, stalls, failed⟩ := ih (step + 1) next more (by omega) enough
      refine ⟨stall + 1, fewer ▸ stalls.cons flag positive, ?_⟩
      rw [run_cons_of_step taken, failed, Nat.add_right_comm, Nat.add_assoc]
    · refine ⟨0, ?_, run_cons_of_error failed⟩
      unfold Stalls
      split
      · rfl
      · cases flag with
        | false => exact absurd (Nat.le_zero.mp few) ‹_›
        | true =>
          have one : queue.pending.length ≤ 1 := few
          exact ⟨rfl, by rw [List.take_zero, List.count_nil]; omega⟩
    · omega

end

/-! ## Two runs side by side -/

theorem exists_getElem?_of_forall₂ {β : Type} {R : α → β → Prop} {first : List α} {second : List β}
    (related : List.Forall₂ R first second) {place : Nat} {value : α}
    (found : first[place]? = some value) : ∃ other, second[place]? = some other ∧ R value other := by
  obtain ⟨bound, rfl⟩ := List.getElem?_eq_some_iff.mp found
  have bound' : place < second.length := related.length_eq ▸ bound
  exact ⟨second[place], List.getElem?_eq_getElem bound', related.get bound bound'⟩

structure Related {β : Type} (R : α → β → Prop) (first : Queue α) (second : Queue β) : Prop where
  pending : List.Forall₂ R first.pending second.pending
  nodes : List.Forall₂ R first.nodes second.nodes
  made : List.Forall₂ R first.made second.made

section
variable {β : Type} {R : α → β → Prop}

theorem nextPending_alike {first : Queue α} {second : Queue β} (related : Related R first second)
    (step : Nat) : Alike (Paired R (Related R)) (first.nextPending step) (second.nextPending step) := by
  obtain ⟨pending, nodes, made⟩ := first
  obtain ⟨pending', nodes', made'⟩ := second
  obtain ⟨waiting, unread, done⟩ := related
  cases waiting with
  | nil => exact .error _
  | cons head tail => exact .ok ⟨head, tail, unread, done⟩

theorem nextNode_alike {first : Queue α} {second : Queue β} (related : Related R first second)
    (total : Nat) : Alike (Paired R (Related R)) (first.nextNode total) (second.nextNode total) := by
  obtain ⟨pending, nodes, made⟩ := first
  obtain ⟨pending', nodes', made'⟩ := second
  obtain ⟨waiting, unread, done⟩ := related
  cases unread with
  | nil => exact .error _
  | cons head tail => exact .ok ⟨head, waiting, tail, done⟩

theorem draw_alike {first : Queue α} {second : Queue β} (related : Related R first second)
    (total step : Nat) (flag : Bool) :
    Alike (Paired (Paired R R) (Related R)) (first.draw total step flag)
      (second.draw total step flag) := by
  apply (nextPending_alike related step).bind
  rintro ⟨a, first⟩ ⟨b, second⟩ ⟨heads, related⟩
  -- The flag is the same on both sides, and so is the place that the second value comes from.
  have next : Alike (Paired R (Related R)) (first.nextFlagged total step flag)
      (second.nextFlagged total step flag) := by
    cases flag with
    | false => exact nextNode_alike related total
    | true => exact nextPending_alike related step
  apply next.bind
  rintro ⟨c, first⟩ ⟨d, second⟩ ⟨others, related⟩
  exact .ok ⟨⟨heads, others⟩, related⟩

theorem Related.push {first : Queue α} {second : Queue β} (related : Related R first second)
    {a : α} {b : β} (values : R a b) : Related R (first.push a) (second.push b) where
  pending := List.rel_append related.pending (.cons values .nil)
  nodes := related.nodes
  made := List.rel_append related.made (.cons values .nil)

variable {other : Nat → β → β → Except Failure β}
  (joins : ∀ step a b c d, R a c → R b d → Alike R (join step a b) (other step c d))
include joins

theorem advance_alike {first : Queue α} {second : Queue β} (related : Related R first second)
    (total step : Nat) (flag : Bool) :
    Alike (Related R) (first.advance join total step flag) (second.advance other total step flag) := by
  apply (draw_alike related total step flag).bind
  rintro ⟨⟨a, b⟩, first⟩ ⟨⟨c, d⟩, second⟩ ⟨⟨left, right⟩, related⟩
  apply (joins step a b c d left right).bind
  intro value value' values
  exact .ok (related.push values)

/-- Runs over related values go alike, step by step, where combining keeps the relation. -/
theorem run_alike {first : Queue α} {second : Queue β} (related : Related R first second)
    (total step : Nat) (flags : List Bool) :
    Alike (Related R) (run join total step flags first) (run other total step flags second) := by
  induction flags generalizing step first second with
  | nil => exact .ok related
  | cons flag flags ih =>
    apply (advance_alike joins related total step flag).bind
    intro next next' related
    exact ih related (step + 1)

end

end Queue

end Inclusion
