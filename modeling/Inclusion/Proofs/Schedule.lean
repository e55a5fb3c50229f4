import Mathlib.Data.List.Induction
import Inclusion.Hash.Pool
import Inclusion.Proofs.Streaming

/-! Schedules of several hashers. Whatever is asked of them and in whatever order, a hasher stands
where its own entries in the log have brought it: it has taken the octets that it accepted since it was
made, and it knows whether it was finalized. -/

set_option autoImplicit false

namespace Inclusion

structure Standing where
  /-- All octets that it has taken, in order. -/
  message : Octets
  finalized : Bool

def Standing.fresh : Standing := ⟨[], false⟩

/-- The hashers of a builder are known by where they stand: they give one digest of their message, and
refuse more octets only where finalizing seals them. -/
structure HashBuilder.Streams (builder : HashBuilder) (digest : Octets → Octets) (seals : Bool) where
  hasher : Standing → builder.Hasher
  fresh : hasher .fresh = builder.fresh
  update (standing : Standing) (octets : Octets) :
    builder.update (hasher standing) octets =
      if seals && standing.finalized then .error .sealed
      else .ok (hasher { standing with message := standing.message ++ octets })
  finalize (standing : Standing) :
    builder.finalize (hasher standing) =
      (hasher { standing with finalized := true }, digest standing.message)

namespace HashBuilder
variable {hash : BlockHash} (positive : 0 < hash.blockSize)

def streams_ofBlockHash : (ofBlockHash hash).Streams hash.digest false where
  hasher standing := BlockHash.Progress.start.feed standing.message
  fresh := rfl
  update standing octets := by
    rw [BlockHash.Progress.feed_append]
    rfl
  finalize standing := by
    rw [← BlockHash.Progress.finish_feed positive]
    rfl

def streams_sealing : (sealing hash).Streams hash.digest true where
  hasher standing := (BlockHash.Progress.start.feed standing.message, standing.finalized)
  fresh := rfl
  update standing octets := by
    rw [BlockHash.Progress.feed_append]
    obtain ⟨message, finalized⟩ := standing
    cases finalized <;> rfl
  finalize standing := by
    rw [← BlockHash.Progress.finish_feed positive]
    rfl

end HashBuilder

namespace HashName

def function : HashName → BlockHash
  | .keccak256 => .keccak256
  | .sha256 => .sha256
  | .sha3 => .sha3

theorem blockSize_pos (name : HashName) : 0 < name.function.blockSize := by
  cases name <;> decide

def seals : HashName → Bool
  | .keccak256 => true
  | .sha256 | .sha3 => false

theorem seals_eq_false_iff (name : HashName) : name.seals = false ↔ name ≠ .keccak256 := by
  cases name <;> decide

def streams : (name : HashName) → name.builder.Streams name.function.digest name.seals
  | .keccak256 => HashBuilder.streams_sealing HashName.keccak256.blockSize_pos
  | .sha256 => HashBuilder.streams_ofBlockHash HashName.sha256.blockSize_pos
  | .sha3 => HashBuilder.streams_ofBlockHash HashName.sha3.blockSize_pos

end HashName

namespace HasherPool

def Operation.target : Operation → String
  | .make name | .update name _ | .finalize name => name

abbrev Answer := Except Failure (Option Octets)

abbrev Log := List (Operation × Answer)

/-- What an entry about a hasher does to it. What was refused does nothing. -/
def note (standing : Standing) : Operation × Answer → Standing
  | (.make _, .ok _) => .fresh
  | (.update _ octets, .ok _) => { standing with message := standing.message ++ octets }
  | (.finalize _, .ok _) => { standing with finalized := true }
  | (_, .error _) => standing

namespace Log

def about (log : Log) (name : String) : Log := log.filter (·.1.target == name)

def standing (log : Log) (name : String) : Standing := (log.about name).foldl note .fresh

def answer (digest : Octets → Octets) (seals : Bool) (log : Log) : Operation → Answer
  | .make _ => .ok none
  | .update name _ =>
    if seals && (log.standing name).finalized then .error .sealed else .ok none
  | .finalize name => .ok (some (digest (log.standing name).message))

theorem standing_concat_self (log : Log) (operation : Operation) (answer : Answer) :
    (log ++ [(operation, answer)]).standing operation.target =
      note (log.standing operation.target) (operation, answer) := by
  simp [standing, about, List.filter_append]

theorem standing_concat_of_ne (log : Log) {operation : Operation} {name : String} (answer : Answer)
    (other : name ≠ operation.target) :
    (log ++ [(operation, answer)]).standing name = log.standing name := by
  simp [standing, about, List.filter_append, other.symm]

/-- For the answer to an operation the entries about its own hasher suffice. -/
theorem answer_about {digest : Octets → Octets} {seals : Bool} (log : Log) {operation : Operation}
    {name : String} (own : operation.target = name) :
    (log.about name).answer digest seals operation = log.answer digest seals operation := by
  have same : (log.about name).standing name = log.standing name := by simp [standing, about]
  subst own
  cases operation with
  | make => rfl
  | update target octets =>
    simp only [Operation.target] at same
    simp only [answer, Operation.target, same]
  | finalize target =>
    simp only [Operation.target] at same
    simp only [answer, Operation.target, same]

end Log

/-! ## One operation -/

section
variable {builder : HashBuilder} {digest : Octets → Octets} {seals : Bool}

def Follows (pool : HasherPool builder) (streams : builder.Streams digest seals) (log : Log) : Prop :=
  ∀ name, pool.find name = streams.hasher (log.standing name)

theorem empty_follows (streams : builder.Streams digest seals) : empty.Follows streams [] :=
  fun _ => streams.fresh.symm

theorem Follows.put {pool : HasherPool builder} {streams : builder.Streams digest seals} {log : Log}
    (follows : pool.Follows streams log) (operation : Operation) {answer : Answer}
    {hasher : builder.Hasher}
    (same : hasher = streams.hasher (note (log.standing operation.target) (operation, answer))) :
    (pool.put operation.target hasher).Follows streams (log ++ [(operation, answer)]) := by
  intro name
  by_cases own : name = operation.target
  · rw [own, find_put_self, Log.standing_concat_self, same]
  · rw [find_put_of_ne _ _ own, Log.standing_concat_of_ne _ _ own, follows name]

theorem Follows.refused {pool : HasherPool builder} {streams : builder.Streams digest seals}
    {log : Log} (follows : pool.Follows streams log) (operation : Operation) (failure : Failure) :
    pool.Follows streams (log ++ [(operation, .error failure)]) := by
  intro name
  rw [follows name]
  by_cases own : name = operation.target
  · rw [own, Log.standing_concat_self]
    cases operation <;> rfl
  · rw [Log.standing_concat_of_ne _ _ own]

/-- An operation is answered by the log, and the pool follows the log with this entry. -/
theorem Follows.perform {pool : HasherPool builder} {streams : builder.Streams digest seals}
    {log : Log} (follows : pool.Follows streams log) (operation : Operation) :
    (pool.perform operation).1 = log.answer digest seals operation ∧
      (pool.perform operation).2.Follows streams
        (log ++ [(operation, log.answer digest seals operation)]) := by
  cases operation with
  | make name => exact ⟨rfl, follows.put (.make name) streams.fresh.symm⟩
  | update name octets =>
    have taken := streams.update (log.standing name) octets
    rw [← follows name] at taken
    by_cases sealed : (seals && (log.standing name).finalized) = true
    · rw [if_pos sealed] at taken
      simp only [HasherPool.perform, taken, Log.answer, if_pos sealed]
      exact ⟨trivial, follows.refused _ _⟩
    · rw [if_neg sealed] at taken
      simp only [HasherPool.perform, taken, Log.answer, if_neg sealed]
      exact ⟨trivial, follows.put (.update name octets) rfl⟩
  | finalize name =>
    have given := streams.finalize (log.standing name)
    rw [← follows name] at given
    simp only [HasherPool.perform, given, Log.answer]
    exact ⟨trivial, follows.put (.finalize name) rfl⟩

end

/-! ## Whole schedules -/

section
variable {builder : HashBuilder}

theorem performAll_append (pool : HasherPool builder) (first second : List Operation) :
    pool.performAll (first ++ second) =
      ((pool.performAll first).1 ++ ((pool.performAll first).2.performAll second).1,
        ((pool.performAll first).2.performAll second).2) := by
  induction first generalizing pool with
  | nil => rfl
  | cons operation first ih => simp only [List.cons_append, performAll, ih]

theorem length_performAll (pool : HasherPool builder) (schedule : List Operation) :
    (pool.performAll schedule).1.length = schedule.length := by
  induction schedule generalizing pool with
  | nil => rfl
  | cons operation schedule ih => simp only [performAll, List.length_cons, ih]

variable (builder)

def after (schedule : List Operation) : HasherPool builder := (empty.performAll schedule).2

def log (schedule : List Operation) : Log := schedule.zip ((empty : HasherPool builder).performAll schedule).1

theorem after_concat (schedule : List Operation) (operation : Operation) :
    after builder (schedule ++ [operation]) = ((after builder schedule).perform operation).2 := by
  rw [after, performAll_append]
  rfl

theorem log_concat (schedule : List Operation) (operation : Operation) :
    log builder (schedule ++ [operation]) =
      log builder schedule ++ [(operation, ((after builder schedule).perform operation).1)] := by
  rw [log, performAll_append, List.zip_append (length_performAll _ _).symm]
  rfl

end

section
variable {builder : HashBuilder} {digest : Octets → Octets} {seals : Bool}
  (streams : builder.Streams digest seals)
include streams

theorem after_follows (schedule : List Operation) :
    (after builder schedule).Follows streams (log builder schedule) := by
  induction schedule using List.reverseRecOn with
  | nil => exact empty_follows streams
  | append_singleton schedule operation ih =>
    obtain ⟨answered, follows⟩ := ih.perform operation
    rw [after_concat, log_concat, answered]
    exact follows

theorem answer_eq (schedule : List Operation) (operation : Operation) :
    ((after builder schedule).perform operation).1 =
      (log builder schedule).answer digest seals operation :=
  ((after_follows streams schedule).perform operation).1

theorem log_concat_answer (schedule : List Operation) (operation : Operation) :
    log builder (schedule ++ [operation]) =
      log builder schedule ++ [(operation, (log builder schedule).answer digest seals operation)] := by
  rw [log_concat, answer_eq streams]

theorem about_log (schedule : List Operation) (name : String) :
    (log builder schedule).about name = log builder (schedule.filter (·.target == name)) := by
  induction schedule using List.reverseRecOn with
  | nil => rfl
  | append_singleton schedule operation ih =>
    rw [log_concat_answer streams, List.filter_append]
    by_cases own : operation.target = name
    · -- By the hypothesis the entries that decide the answer are the same on both sides.
      have same : (log builder (schedule.filter (·.target == name))).answer digest seals operation =
          (log builder schedule).answer digest seals operation := by
        rw [← ih, Log.answer_about _ own]
      rw [Log.about, List.filter_append]
      simp only [List.filter_cons, List.filter_nil, own, beq_self_eq_true, if_true]
      rw [log_concat_answer streams, same, ← ih]
      rfl
    · -- The operation drops out of both sides, whatever it was answered.
      have other : (operation.target == name) = false := beq_false_of_ne own
      rw [Log.about, List.filter_append]
      simp only [List.filter_cons, List.filter_nil, other, Bool.false_eq_true, if_false,
        List.append_nil]
      exact ih

theorem message_log_append (schedule : List Operation) {later : List Operation} {name : String}
    (finalizing : ∀ operation ∈ later, operation.target = name → operation = .finalize name) :
    ((log builder (schedule ++ later)).standing name).message =
      ((log builder schedule).standing name).message := by
  induction later using List.reverseRecOn with
  | nil => rw [List.append_nil]
  | append_singleton later operation ih =>
    have before := ih fun other member => finalizing other (List.mem_append_left _ member)
    rw [← List.append_assoc, log_concat_answer streams]
    by_cases own : operation.target = name
    · obtain rfl := finalizing operation (List.mem_append_right _ List.mem_cons_self) own
      exact (congrArg Standing.message (Log.standing_concat_self _ _ _)).trans before
    · rw [Log.standing_concat_of_ne _ _ (Ne.symm own), before]

end

/-! ## Hashers of the named functions -/

section
variable (hash : HashName) (schedule : List Operation)

def standingOf (name : String) : Standing := (log hash.builder schedule).standing name

/-- How hashers of a named function answer after a schedule: by what each of them took since it was
made, whatever happened to the others. -/
structure AnswersByLog : Prop where
  logged (operation : Operation) :
    log hash.builder (schedule ++ [operation]) = log hash.builder schedule ++
      [(operation, ((after hash.builder schedule).perform operation).1)]
  made (name : String) :
    ((after hash.builder schedule).perform (.make name)).1 = .ok none ∧
      standingOf hash (schedule ++ [.make name]) name = .fresh
  /-- Octets are appended to the message, also after it was finalized where that does not seal. -/
  taken (name : String) (octets : Octets) :
    hash ≠ .keccak256 ∨ (standingOf hash schedule name).finalized = false →
      ((after hash.builder schedule).perform (.update name octets)).1 = .ok none ∧
        standingOf hash (schedule ++ [.update name octets]) name =
          { standingOf hash schedule name with
            message := (standingOf hash schedule name).message ++ octets }
  /-- A sealed hasher refuses all octets, and no hasher changes. -/
  refused (name : String) (octets : Octets) :
    hash = .keccak256 → (standingOf hash schedule name).finalized = true →
      ∃ failure, (after hash.builder schedule).perform (.update name octets) =
          (.error failure, after hash.builder schedule) ∧ failure.errorClass = .type
  /-- Finalizing always gives the digest of the message as a whole. -/
  finalized (name : String) :
    ((after hash.builder schedule).perform (.finalize name)).1 =
        .ok (some (hash.function.digest (standingOf hash schedule name).message)) ∧
      (standingOf hash (schedule ++ [.finalize name]) name).finalized = true
  /-- It gives the same octets again as long as the hasher is at most finalized. -/
  repeated (name : String) (later : List Operation) :
    (∀ operation ∈ later, operation.target = name → operation = .finalize name) →
      ((after hash.builder (schedule ++ later)).perform (.finalize name)).1 =
        ((after hash.builder schedule).perform (.finalize name)).1
  /-- Operations on other hashers change neither a hasher nor its answers. -/
  apart (operation : Operation) (name : String) : name ≠ operation.target →
    (after hash.builder (schedule ++ [operation])).find name =
      (after hash.builder schedule).find name
  alone (name : String) :
    (log hash.builder schedule).about name =
      log hash.builder (schedule.filter (·.target == name))

theorem standingOf_concat (operation : Operation) :
    standingOf hash (schedule ++ [operation]) operation.target =
      note (standingOf hash schedule operation.target)
        (operation, (log hash.builder schedule).answer hash.function.digest hash.seals operation) := by
  rw [standingOf, log_concat_answer hash.streams, Log.standing_concat_self]
  rfl

theorem find_after_concat {operation : Operation} {name : String} (other : name ≠ operation.target) :
    (after hash.builder (schedule ++ [operation])).find name =
      (after hash.builder schedule).find name := by
  rw [after_follows hash.streams, after_follows hash.streams, log_concat,
    Log.standing_concat_of_ne _ _ other]

theorem answersByLog : AnswersByLog hash schedule where
  logged operation := log_concat hash.builder schedule operation
  made name := ⟨rfl, standingOf_concat hash schedule (.make name)⟩
  taken name octets free := by
    have unsealed : (hash.seals && (standingOf hash schedule name).finalized) = false := by
      rcases free with other | unfinished
      · rw [hash.seals_eq_false_iff.mpr other, Bool.false_and]
      · rw [unfinished, Bool.and_false]
    have accepted : (log hash.builder schedule).answer hash.function.digest hash.seals
        (.update name octets) = .ok none :=
      if_neg (Bool.eq_false_iff.mp unsealed)
    have next := standingOf_concat hash schedule (.update name octets)
    rw [accepted] at next
    exact ⟨(answer_eq hash.streams schedule _).trans accepted, next⟩
  refused name octets sealing finalized := by
    subst sealing
    refine ⟨.sealed, ?_, rfl⟩
    have found := after_follows HashName.keccak256.streams schedule name
    have denied := HashName.keccak256.streams.update (standingOf .keccak256 schedule name) octets
    rw [finalized] at denied
    simp only [HasherPool.perform, found]
    rw [standingOf] at denied
    simp only [denied]
    rfl
  finalized name := by
    refine ⟨answer_eq hash.streams schedule (.finalize name), ?_⟩
    exact congrArg Standing.finalized (standingOf_concat hash schedule (.finalize name))
  repeated name later finalizing := by
    rw [answer_eq hash.streams, answer_eq hash.streams, Log.answer, Log.answer,
      message_log_append hash.streams schedule finalizing]
  apart _ _ other := find_after_concat hash schedule other
  alone name := about_log hash.streams schedule name

end

end HasherPool

theorem HashName.hash_eq (name : HashName) (chunks : List Octets) :
    ∃ digest, name.builder.hash chunks = .ok digest ∧
      digest.octets = name.function.digest chunks.flatten := by
  have positive := name.blockSize_pos
  cases name with
  | keccak256 =>
    exact ⟨_, HashBuilder.computes_sealing Keccak.length_output chunks,
      BlockHash.octets_digestOf positive _ _⟩
  | sha256 =>
    exact ⟨_, HashBuilder.computes_ofBlockHash Sha256.length_output chunks,
      BlockHash.octets_digestOf positive _ _⟩
  | sha3 =>
    exact ⟨_, HashBuilder.computes_ofBlockHash Keccak.length_output chunks,
      BlockHash.octets_digestOf positive _ _⟩

theorem HashName.hash_flatten (name : HashName) (chunks : List Octets) :
    name.builder.hash chunks = name.builder.hash [chunks.flatten] := by
  obtain ⟨first, made, octets⟩ := name.hash_eq chunks
  obtain ⟨second, remade, again⟩ := name.hash_eq [chunks.flatten]
  rw [List.flatten_singleton] at again
  rw [made, remade, Digest.ext_octets (octets.trans again.symm)]

namespace HasherPool

/-- Hashers of a named function, however many and however their operations are interleaved, give
digests of exactly the octets that they took. Chunks are hashed to the digest of what they make up, and
so are the two parts of a pair. -/
theorem hashers_answer_by_log (hash : HashName) :
    (∀ schedule, AnswersByLog hash schedule) ∧
      (∀ chunks, ∃ digest, hash.builder.hash chunks = .ok digest ∧
        digest.octets = hash.function.digest chunks.flatten) ∧
      (∀ chunks others, chunks.flatten = others.flatten →
        hash.builder.hash chunks = hash.builder.hash others) ∧
      ∀ first second, hash.builder.hashPair first second = hash.builder.hash [first ++ second] := by
  refine ⟨answersByLog hash, hash.hash_eq, fun chunks others same => ?_, fun first second => ?_⟩
  · rw [hash.hash_flatten chunks, hash.hash_flatten others, same]
  · rw [HashBuilder.hashPair, hash.hash_flatten]
    simp

/-- Two hashers in turns: once the first was finalized its message grows by SHA-256, and by Keccak-256
more octets are refused; the second is answered as if it were alone. -/
theorem hashers_answer_by_log_in_turns :
    let schedule : List Operation :=
      [.make "a", .make "b", .update "a" [1], .update "b" [9], .finalize "a"]
    (∃ failure, (after HashName.keccak256.builder schedule).perform (.update "a" []) =
        (.error failure, after HashName.keccak256.builder schedule) ∧ failure.errorClass = .type) ∧
      ((after HashName.sha256.builder (schedule ++ [.update "a" [2]])).perform (.finalize "a")).1 =
        .ok (some (BlockHash.sha256.digest [1, 2])) ∧
      (log HashName.sha3.builder schedule).about "b" =
        log HashName.sha3.builder [.make "b", .update "b" [9]] := by
  intro schedule
  have finalized : (standingOf .keccak256 schedule "a").finalized = true := by rfl
  have message : (standingOf .sha256 (schedule ++ [.update "a" [2]]) "a").message = [1, 2] := by rfl
  refine ⟨?_, ?_, ?_⟩
  · exact ((hashers_answer_by_log .keccak256).1 schedule).refused "a" [] rfl finalized
  · have given := (((hashers_answer_by_log .sha256).1 (schedule ++ [.update "a" [2]])).finalized "a").1
    rwa [message] at given
  · exact ((hashers_answer_by_log .sha3).1 schedule).alone "b"

end HasherPool

end Inclusion
