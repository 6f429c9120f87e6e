import RealmDispatch.Proofs.CallRefusals

/-!
# What the services answer

The realm manager asks for a service with up to four arguments, and the answer comes in up to
three of its registers. `Service.request?` says what the board is asked for, and with which of
the arguments, `Service.outcome` what comes of it, and `Service.answer` how this is written down:
a status that is 0 for success and the number of the error in two's complement otherwise, and
then the values. An error leaves no length of an earlier answer behind, but a feature that does
not exist leaves `x1` as it is.

Whatever the board makes of a request, these registers are all that changes. A firmware that
signs no tokens does not assign the identifier to that service, and says so in feature register 0.
-/
namespace RealmDispatch
open Step

/-! ## The interface -/

/-- The number of an error. -/
def ServiceError.number : ServiceError → Int
  | unknown => -1
  | badAddress => -2
  | badPas => -3
  | noMemory => -4
  | invalid => -5

/-- The number of the error that reports a fault of a granule. -/
def GranuleFault.number : GranuleFault → Int
  | invalidAddress => -2
  | permission => -3

namespace Service

/-- What the board is asked for, with the arguments of the call. The features are known without
asking, and the end of the boot is no service of the board. -/
def request? (args : Arguments) : Service → Option Request
  | delegate => some (.delegate args.x1 4096)
  | undelegate => some (.undelegate args.x1 4096)
  | platformToken => some (.platformToken args.x1 args.x2 args.x3)
  | realmKey => some (.realmKey args.x1 args.x2 args.x3)
  | tokenSign => some (.signToken args.x1 args.x2 args.x3 args.x4)
  | features | bootComplete => none

/-- The values that come of the service, or the number of its error. -/
def outcome (b : Board) (args : Arguments) : Service → Except Int (List UInt64)
  | delegate => ((b.delegate args.x1 4096).map fun _ => []).mapError GranuleFault.number
  | undelegate => ((b.undelegate args.x1 4096).map fun _ => []).mapError GranuleFault.number
  | platformToken =>
      ((b.platformToken args.x1 args.x2 args.x3).map fun (length, remaining) =>
        [length, remaining]).mapError ServiceError.number
  | realmKey =>
      ((b.realmKey args.x1 args.x2 args.x3).map fun length => [length]).mapError
        ServiceError.number
  | tokenSign =>
      ((b.signToken args.x1 args.x2 args.x3 args.x4).map fun length => [length]).mapError
        ServiceError.number
  | features => if args.x1 = 0 then .ok [if b.signsTokens then 1 else 0] else .error (-5)
  | bootComplete => .ok []

/-- The lengths that an error sets to 0. -/
def lengths : Service → Nat
  | platformToken => 2
  | realmKey | tokenSign => 1
  | delegate | undelegate | features | bootComplete => 0

/-- How an outcome is written down, with so many lengths to be set to 0. -/
def report (lengths : Nat) : Except Int (List UInt64) → List UInt64
  | .ok values => 0 :: values
  | .error number => UInt64.ofInt number :: List.replicate lengths 0

/-- The registers of the answer, from `x0` upwards. -/
def answer (b : Board) (args : Arguments) (s : Service) : List UInt64 :=
  report s.lengths (s.outcome b args)

end Service

/-- The realm manager goes on with the answer in its registers from `x0` upwards, and nothing else
has changed. -/
structure AnsweredWith (c : Core) (answer : List UInt64) (m : Machine) (o : Outcome Next) :
    Prop where
  result : o.result = .ok (.eret .realm)
  length_le : answer.length ≤ 3
  machine : ∃ general : GeneralRegisters,
    general.values.toList =
      answer ++ (m.context c .realm).general.values.toList.drop answer.length ∧
    o.machine = m.setCpu c ((m.cpu c).setContext .realm { m.context c .realm with general })

variable {b : Board} {m : Machine} {c : Core} {args : Arguments} {flags : CallFlags} {s : Service}

theorem ServiceError.code_eq (e : ServiceError) : e.code = UInt64.ofInt e.number := by
  cases e <;> rfl

theorem GranuleFault.code_eq (fault : GranuleFault) :
    fault.toServiceError.code = UInt64.ofInt fault.number := by
  cases fault <;> rfl

/-! ## What the board delivers -/

/-- A granule is moved at the request of a call, or it is reported why not. -/
theorem granule_moved (s : Service) (r : Request) (address : UInt64)
    (moved : Except GranuleFault Unit) :
    ∃ notices, (do
      Step.request r
      granuleAnswer s address moved : Step (List UInt64)) b m =
      { result := .ok (Service.report 0
          ((moved.map fun _ => []).mapError GranuleFault.number))
        machine := m
        requests := [r]
        notices := notices } := by
  cases moved with
  | ok => exact ⟨[], rfl⟩
  | error fault =>
      refine ⟨[.granuleRefused s.code address fault], ?_⟩
      change _ = Outcome.mk (.ok [UInt64.ofInt fault.number]) m [r] _
      rw [← fault.code_eq]
      rfl

theorem tokenAnswer_eq (result : Except ServiceError (UInt64 × UInt64)) :
    tokenAnswer result = Service.report 2
      ((result.map fun (length, remaining) => [length, remaining]).mapError
        ServiceError.number) := by
  cases result with
  | ok => rfl
  | error e => exact congrArg (· :: [0, 0]) e.code_eq

theorem lengthAnswer_eq (result : Except ServiceError UInt64) :
    lengthAnswer result = Service.report 1
      ((result.map fun length => [length]).mapError ServiceError.number) := by
  cases result with
  | ok => rfl
  | error e => exact congrArg (· :: [0]) e.code_eq

theorem featureAnswer_eq (signsTokens : Bool) (index : UInt64) :
    featureAnswer (featureRegister signsTokens index) = Service.report 0
      (if index = 0 then .ok [if signsTokens then 1 else 0] else .error (-5)) := by
  unfold featureRegister
  split_ifs <;> rfl

/-- A service that returns asks the board once at most, and delivers its answer. -/
theorem perform_answer (b : Board) (m : Machine) (args : Arguments) (hs : s ≠ .bootComplete) :
    ∃ notices, perform (some s) args b m =
      { result := .ok (s.answer b args)
        machine := m
        requests := (s.request? args).toList
        notices := notices } := by
  cases s with
  | delegate => exact granule_moved .delegate _ args.x1 (b.delegate args.x1 4096)
  | undelegate => exact granule_moved .undelegate _ args.x1 (b.undelegate args.x1 4096)
  | platformToken =>
      refine ⟨[], ?_⟩
      change Outcome.mk (.ok (tokenAnswer (b.platformToken args.x1 args.x2 args.x3))) m _ _ = _
      rw [tokenAnswer_eq]
      rfl
  | realmKey =>
      refine ⟨[], ?_⟩
      change Outcome.mk (.ok (lengthAnswer (b.realmKey args.x1 args.x2 args.x3))) m _ _ = _
      rw [lengthAnswer_eq]
      rfl
  | tokenSign =>
      refine ⟨[], ?_⟩
      change Outcome.mk (.ok (lengthAnswer (b.signToken args.x1 args.x2 args.x3 args.x4))) m _ _ = _
      rw [lengthAnswer_eq]
      rfl
  | features =>
      refine ⟨[], ?_⟩
      change Outcome.mk (.ok (featureAnswer (featureRegister b.signsTokens args.x1))) m _ _ = _
      rw [featureAnswer_eq]
      rfl
  | bootComplete => exact absurd rfl hs

/-! ## The registers of an answer -/

namespace Service

/-- At most two values, or the number of an error. -/
def Reportable : Except Int (List UInt64) → Prop
  | .ok values => values.length ≤ 2
  | .error number => ∃ e : ServiceError, number = e.number

theorem reportable_of_result {ε α : Type} (result : Except ε α) {values : α → List UInt64}
    {number : ε → Int} (hvalues : ∀ a, (values a).length ≤ 2)
    (hnumber : ∀ e, ∃ e' : ServiceError, number e = e'.number) :
    Reportable ((result.map values).mapError number) := by
  cases result with
  | ok a => exact hvalues a
  | error e => exact hnumber e

theorem reportable_outcome (b : Board) (args : Arguments) (s : Service) :
    Reportable (s.outcome b args) := by
  have hfault (fault : GranuleFault) : ∃ e : ServiceError, fault.number = e.number :=
    ⟨fault.toServiceError, by cases fault <;> rfl⟩
  have herror (e : ServiceError) : ∃ e' : ServiceError, e.number = e'.number := ⟨e, rfl⟩
  cases s with
  | delegate | undelegate => exact reportable_of_result _ (fun _ => Nat.zero_le 2) hfault
  | platformToken => exact reportable_of_result _ (fun _ => Nat.le_refl 2) herror
  | realmKey | tokenSign => exact reportable_of_result _ (fun _ => Nat.le_succ 1) herror
  | features =>
      rw [outcome]
      by_cases hindex : args.x1 = 0
      · rw [if_pos hindex]
        exact Nat.le_succ 1
      · rw [if_neg hindex]
        exact ⟨.invalid, rfl⟩
  | bootComplete => exact Nat.zero_le 2

theorem length_answer_le (b : Board) (args : Arguments) (s : Service) :
    (s.answer b args).length ≤ 3 := by
  have hreportable := s.reportable_outcome b args
  unfold answer
  cases houtcome : s.outcome b args with
  | ok values =>
      rw [houtcome] at hreportable
      exact Nat.succ_le_succ hreportable
  | error number =>
      have hlengths : s.lengths ≤ 2 := by cases s <;> decide
      rw [report, List.length_cons, List.length_replicate]
      exact Nat.succ_le_succ hlengths

/-- The first register is 0 exactly if the service delivers. -/
theorem answer_head (b : Board) (args : Arguments) (s : Service) :
    ∃ status rest, s.answer b args = status :: rest ∧
      (status = 0 ↔ ∃ values, s.outcome b args = .ok values) := by
  have hreportable := s.reportable_outcome b args
  unfold answer
  cases houtcome : s.outcome b args with
  | ok values => exact ⟨0, values, rfl, iff_of_true rfl ⟨values, rfl⟩⟩
  | error number =>
      rw [houtcome] at hreportable
      obtain ⟨e, rfl⟩ := hreportable
      have hstatus : UInt64.ofInt e.number ≠ 0 := by cases e <;> decide
      refine ⟨_, _, rfl, iff_of_false hstatus ?_⟩
      rintro ⟨values, hvalues⟩
      cases hvalues

end Service

theorem answeredWith_written (m : Machine) (c : Core) {answer : List UInt64}
    (hlength : answer.length ≤ 3) (requests : List Request) (notices : List Notice) :
    AnsweredWith c answer m
      { result := .ok (.eret .realm)
        machine := m.written c .realm answer
        requests := requests
        notices := notices } := by
  refine ⟨rfl, hlength, (m.context c .realm).general.load answer, ?_, rfl⟩
  exact GeneralRegisters.toList_load _ (Nat.le_trans hlength (by decide))

theorem handleCall_answers (hc : b.core = c.val) (h : Served b m args flags s) :
    (handleCall args flags b m).requests = (s.request? args).toList ∧
      AnsweredWith c (s.answer b args) m (handleCall args flags b m) := by
  have hlength := s.length_answer_le b args
  obtain ⟨notices, hperform⟩ := perform_answer b m args h.returns
  rw [handleCall_performs hc h hperform (Nat.le_trans hlength (by decide))]
  exact ⟨rfl, answeredWith_written m c hlength _ _⟩

/-- An identifier that is assigned stands for its service. -/
theorem Board.service?_code (b : Board) (s : Service) :
    b.service? s.code = if s = .tokenSign ∧ b.signsTokens = false then none else some s := by
  rw [Board.service?, Service.ofCode?_code]
  cases hsigns : b.signsTokens <;> cases s <;> rfl

theorem AnsweredWith.status_eq {answer rest : List UInt64} {status : UInt64} {o : Outcome Next}
    (h : AnsweredWith c answer m o) (hanswer : answer = status :: rest) :
    (o.machine.context c .realm).general.values[0] = status := by
  obtain ⟨general, hgeneral, hmachine⟩ := h.machine
  have hcontext : (o.machine.context c .realm).general = general := by
    rw [hmachine, Machine.context_setContext, if_pos ⟨rfl, rfl⟩]
  have hfirst : general.values.toList[0]? = some status := by simp [hgeneral, hanswer]
  rw [hcontext, ← Option.some_inj, ← hfirst, Vector.getElem?_toList]
  exact (Vector.getElem?_eq_getElem (by decide)).symm

/-- A call of the realm manager for an assigned service asks the board for that service once, with
the arguments of the call, or for nothing if it reads a feature. It is answered in up to three
registers, and nothing else changes: a status that is 0 exactly if the service delivers, and what
it delivers, or zeros for the lengths it does not. Without signatures the identifier of that
service is refused like an unassigned one, and feature register 0 has the bit of signatures
exactly if they are served. -/
theorem service_call_answered (m : Machine) (args : Arguments) (flags : CallFlags) (s : Service)
    (hc : b.core = c.val) (hboot : m.bootFailed = false) (hworld : flags.world = .realm)
    (hcode : callCode args = s.code) (hreturns : s ≠ .bootComplete) :
    let o := handleCall args flags b m
    ((s = .tokenSign → b.signsTokens = true) →
      o.requests = (s.request? args).toList ∧ AnsweredWith c (s.answer b args) m o ∧
        ((o.machine.context c .realm).general.values[0] = 0 ↔
          ∃ values, s.outcome b args = .ok values)) ∧
      (s = .tokenSign ∧ b.signsTokens = false → TurnedAway c .realm m o) ∧
      ∀ index : Arguments, index.x1 = 0 → Service.features.outcome b index =
        .ok [if (b.service? Service.tokenSign.code).isSome then 1 else 0] := by
  intro o
  have hservice := b.service?_code s
  rw [← hcode] at hservice
  refine ⟨fun hsigns => ?_, fun hunsigned => ?_, fun index hindex => ?_⟩
  · have hassigned : b.service? (callCode args) = some s := by
      rw [hservice, if_neg]
      rintro ⟨hsign, hunsigned⟩
      rw [hsigns hsign] at hunsigned
      cases hunsigned
    have hserved : Served b m args flags s := ⟨hboot, hworld, hassigned, hreturns⟩
    obtain ⟨hrequests, hanswered⟩ := handleCall_answers hc hserved
    obtain ⟨status, rest, hanswer, hstatus⟩ := s.answer_head b args
    refine ⟨hrequests, hanswered, ?_⟩
    rw [hanswered.status_eq hanswer]
    exact hstatus
  · rw [if_pos hunsigned] at hservice
    have howns : Service.owns (callCode args) = true := by rw [hcode, s.owns_code]
    rw [← hworld]
    exact (Refused.serviceUnassigned howns hworld hservice).turnedAway hc
  · rw [Service.outcome, if_pos hindex, b.service?_code]
    cases b.signsTokens <;> rfl

open Scenario in
/-- A token that does not fit into its buffer leaves no length behind, though `x1` and `x2` hold the
arguments of a call of the host. One board signs tokens, and the other one does not. -/
theorem service_call_answered_of_stale_lengths :
    let m := ({} : Machine).after [hostCall 2 0 .recEnter 0x1000]
    let failing := ({ core := 2, token := .error .noMemory } : Readings).board 0
    let signing := ({ core := 2, signsTokens := true, signature := .ok 0x60 } : Readings).board 0
    let token := Arguments.ofList [Service.platformToken.code.toUInt64, 0xffbff000, 0x10, 64]
    let signature := Arguments.ofList [Service.tokenSign.code.toUInt64, 3, 0xffbff000, 0x1000, 1]
    let flags : CallFlags := ⟨CallFlags.nonSecureBit ||| CallFlags.realmBit⟩
    (handleCall token flags failing m).requests = [.platformToken 0xffbff000 0x10 64] ∧
      AnsweredWith 2 [0xfffffffffffffffc, 0, 0] m (handleCall token flags failing m) ∧
      (handleCall signature flags signing m).requests = [.signToken 3 0xffbff000 0x1000 1] ∧
      AnsweredWith 2 [0, 0x60] m (handleCall signature flags signing m) ∧
      TurnedAway 2 .realm m (handleCall signature flags failing m) := by
  intro m failing signing token signature flags
  have hboot : m.bootFailed = false := by decide
  have hworld : flags.world = .realm := by decide
  obtain ⟨htoken, -, -⟩ := service_call_answered (b := failing) (c := 2) m token flags
    .platformToken rfl hboot hworld (by decide) (by decide)
  obtain ⟨hsigned, -, -⟩ := service_call_answered (b := signing) (c := 2) m signature flags
    .tokenSign rfl hboot hworld (by decide) (by decide)
  obtain ⟨-, hunsigned, -⟩ := service_call_answered (b := failing) (c := 2) m signature flags
    .tokenSign rfl hboot hworld (by decide) (by decide)
  obtain ⟨htokenRequests, htokenAnswer, -⟩ := htoken (fun h => by cases h)
  obtain ⟨hsignRequests, hsignAnswer, -⟩ := hsigned (fun _ => rfl)
  exact ⟨htokenRequests, htokenAnswer, hsignRequests, hsignAnswer, hunsigned ⟨rfl, rfl⟩⟩

end RealmDispatch
