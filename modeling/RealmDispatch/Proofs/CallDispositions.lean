import RealmDispatch.Proofs.DispatchOutcomes

/-!
# The five things that become of a call

A trapped call is forwarded, completes the call in flight, leaves a synchronous entry,
is served, or is refused, and nothing else becomes of a call. The outcomes of the first
three are known. This module spells out when a call is refused and when it is served, and
adds these two outcomes: a refusal is an answer of one register and nothing more, and a
service answers in three registers at most.
-/
namespace RealmDispatch
open Step

/-! ## Identifiers -/

theorem Service.owns_code (s : Service) : Service.owns s.code = true := by
  cases s <;> decide

/-- The block of the services lies behind the one of the commands. -/
theorem Service.not_owned_by_command {code : UInt32} (h : Service.owns code = true) :
    Command.owns code = false := by
  have hfirst : Service.delegate.code ≤ code := by
    rw [Service.owns, Bool.and_eq_true, decide_eq_true_eq, decide_eq_true_eq] at h
    exact h.1
  have hbelow : Command.requestComplete.code < Service.delegate.code := by decide
  have hlast : ¬ code ≤ Command.requestComplete.code :=
    UInt32.not_le.mpr (UInt32.lt_of_lt_of_le hbelow hfirst)
  rw [Command.owns, decide_eq_false hlast, Bool.and_false]

/-- An identifier stands for a service only if it is the one assigned to it. -/
theorem code_of_service? {b : Board} {code : UInt32} {s : Service}
    (h : b.service? code = some s) : code = s.code :=
  (Service.code_of_ofCode? (Option.filter_eq_some_iff.mp h).1).symm

variable {b : Board} {m : Machine} {c : Core} {args : Arguments} {flags : CallFlags}
  {service : Service}

/-! ## When a call is refused, and when it is served -/

/-- Everything a call can be refused for on the core `c`. -/
inductive Refused (b : Board) (m : Machine) (c : Core) (args : Arguments) (flags : CallFlags) :
    Prop
  | bootFailed : m.bootFailed = true → Refused b m c args flags
  | unowned : Command.owns (callCode args) = false → Service.owns (callCode args) = false →
      Refused b m c args flags
  | commandFromSecure : Command.owns (callCode args) = true → flags.world = .secure →
      Refused b m c args flags
  | commandUnsupported : Command.owns (callCode args) = true → flags.world = .realm →
      callCode args ≠ Command.requestComplete.code → Refused b m c args flags
  | completionUnexpected : flags.world = .realm →
      callCode args = Command.requestComplete.code → (m.cpu c).inFlight = none →
      Refused b m c args flags
  | serviceFromOutside : Service.owns (callCode args) = true → flags.world ≠ .realm →
      Refused b m c args flags
  | serviceUnassigned : Service.owns (callCode args) = true → flags.world = .realm →
      b.service? (callCode args) = none → Refused b m c args flags

/-- The board performs a service for the realm manager, which goes on afterwards. -/
structure Served (b : Board) (m : Machine) (args : Arguments) (flags : CallFlags)
    (service : Service) : Prop where
  bootPassed : m.bootFailed = false
  world : flags.world = .realm
  assigned : b.service? (callCode args) = some service
  returns : service ≠ .bootComplete

inductive Disposition (b : Board) (m : Machine) (c : Core) (args : Arguments)
    (flags : CallFlags) : Prop
  | forwarded : Forwards m args flags → Disposition b m c args flags
  | completed {call : PendingCall} : Completes m args flags →
      (m.cpu c).inFlight = some call → Disposition b m c args flags
  | left : m.bootFailed = false → Leaves args flags → Disposition b m c args flags
  | served {service : Service} : Served b m args flags service → Disposition b m c args flags
  | refused : Refused b m c args flags → Disposition b m c args flags

/-- There is nothing else that becomes of a call. -/
theorem disposition (b : Board) (m : Machine) (c : Core) (args : Arguments)
    (flags : CallFlags) : Disposition b m c args flags := by
  by_cases hfailed : m.bootFailed = true
  · exact .refused (.bootFailed hfailed)
  have hboot : m.bootFailed = false := by simpa using hfailed
  by_cases hcommand : Command.owns (callCode args) = true
  · cases hworld : flags.world with
    | secure => exact .refused (.commandFromSecure hcommand hworld)
    | nonSecure => exact .forwarded ⟨hboot, hworld, hcommand⟩
    | realm =>
        by_cases hcode : callCode args = Command.requestComplete.code
        · cases hcall : (m.cpu c).inFlight with
          | none => exact .refused (.completionUnexpected hworld hcode hcall)
          | some call => exact .completed ⟨hboot, hworld, hcode⟩ hcall
        · exact .refused (.commandUnsupported hcommand hworld hcode)
  · by_cases hservice : Service.owns (callCode args) = true
    · by_cases hworld : flags.world = .realm
      · cases hassigned : b.service? (callCode args) with
        | none => exact .refused (.serviceUnassigned hservice hworld hassigned)
        | some service =>
            by_cases hreturns : service = .bootComplete
            · subst hreturns
              exact .left hboot ⟨hworld, service_of_bootComplete hassigned⟩
            · exact .served ⟨hboot, hworld, hassigned, hreturns⟩
      · exact .refused (.serviceFromOutside hservice hworld)
    · exact .refused (.unowned (by simpa using hcommand) (by simpa using hservice))

/-! ## The outcomes -/

/-- A call that is refused writes one register of its caller and asks the board for nothing. -/
theorem handleCall_refused (hc : b.core = c.val) (h : Refused b m c args flags) :
    ∃ notices, (¬ Completes m args flags → notices.any Notice.isMismatch = false) ∧
      handleCall args flags b m =
      { result := .ok (.eret flags.world)
        machine := m.written c flags.world [unknownCall]
        notices := notices } := by
  by_cases hfailed : m.bootFailed = true
  · obtain ⟨notice, hquiet, hrefused⟩ := handleCall_failed args flags hfailed hc
    exact ⟨[notice], fun _ => isMismatch_cons hquiet rfl, hrefused⟩
  have hboot : m.bootFailed = false := by simpa using hfailed
  have hreject := reject_apply (m := m) flags hc
  cases h with
  | bootFailed h => exact absurd h hfailed
  | unowned hcommand hservice =>
      refine ⟨[.unownedCall (callCode args)], fun _ => rfl, ?_⟩
      simp [handleCall, hcommand, hservice, hreject]
  | commandFromSecure hcommand hworld =>
      refine ⟨[.commandFromSecure], fun _ => rfl, ?_⟩
      simp [handleCall, handleCommand, hcommand, hboot, hworld, hreject]
  | commandUnsupported hcommand hworld hcode =>
      refine ⟨[.commandUnsupported (callCode args)], fun _ => rfl, ?_⟩
      simp [handleCall, handleCommand, hcommand, hboot, hworld, hcode, hreject]
  | completionUnexpected hworld hcode hcall =>
      refine ⟨[.completionUnexpected], fun h => absurd ⟨hboot, hworld, hcode⟩ h, ?_⟩
      rw [handleCall_completes ⟨hboot, hworld, hcode⟩, complete_refused hc hcall]
  | serviceFromOutside hservice hworld =>
      have hcommand := Service.not_owned_by_command hservice
      refine ⟨[.serviceFromOutside], fun _ => rfl, ?_⟩
      simp [handleCall, handleService, hcommand, hservice, hboot, hworld, hreject]
  | serviceUnassigned hservice hworld hassigned =>
      have hcommand := Service.not_owned_by_command hservice
      have hroom : [unknownCall].length ≤ generalCount := by decide
      refine ⟨[.serviceCalled (callCode args) args.x1 args.x2 args.x3,
        .serviceUnsupported (callCode args)], fun _ => rfl, ?_⟩
      simp [handleCall, handleService, hcommand, hservice, hboot, hworld, hassigned, perform,
        core_eq hc, write_apply c .realm hroom, Machine.written]

/-- What the board delivers for a service is written to the realm manager's registers. -/
theorem handleCall_performs (hc : b.core = c.val) (h : Served b m args flags service)
    {values : List UInt64} {requests : List Request} {notices : List Notice}
    (hperform : perform (some service) args b m =
      { result := .ok values, machine := m, requests := requests, notices := notices })
    (hroom : values.length ≤ generalCount) :
    handleCall args flags b m =
      { result := .ok (.eret .realm)
        machine := m.written c .realm values
        requests := requests
        notices := .serviceCalled (callCode args) args.x1 args.x2 args.x3 :: notices } := by
  have howns : Service.owns (callCode args) = true := by
    rw [code_of_service? h.assigned, Service.owns_code]
  have hcommand := Service.not_owned_by_command howns
  simp [handleCall, handleService, hcommand, howns, h.bootPassed, h.world, h.assigned, h.returns,
    hperform, core_eq hc, write_apply c .realm hroom, Machine.written]

/-- A service answers in the first registers of the realm manager. -/
theorem handleCall_served (hc : b.core = c.val) (h : Served b m args flags service) :
    ∃ values requests notices, values.length ≤ 3 ∧ notices.any Notice.isMismatch = false ∧
      handleCall args flags b m =
      { result := .ok (.eret .realm)
        machine := m.written c .realm values
        requests := requests
        notices := notices } := by
  obtain ⟨values, requests, notices, hperform, hlen, hquiet⟩ :=
    delivers_perform (some service) args b m
  have hroom : values.length ≤ generalCount := Nat.le_trans hlen (by decide)
  exact ⟨values, requests, _, hlen, isMismatch_cons rfl hquiet,
    handleCall_performs hc h hperform hroom⟩

/-- The caller goes on, with some of its registers written. -/
structure Stays (c : Core) (w : World) (m : Machine) (o : Outcome Next) : Prop where
  result : o.result = .ok (.eret w)
  machine : ∃ values, o.machine = m.written c w values
  notices : o.notices.any Notice.isMismatch = false

/-- A call that is served or refused stays with its caller. -/
theorem handleCall_stays (hc : b.core = c.val) (hforwards : ¬ Forwards m args flags)
    (hcompletes : ¬ Completes m args flags) (hleaves : ¬ Leaves args flags) :
    Stays c flags.world m (handleCall args flags b m) := by
  cases disposition b m c args flags with
  | forwarded h => exact absurd h hforwards
  | completed h _ => exact absurd h hcompletes
  | left _ h => exact absurd h hleaves
  | served h =>
      obtain ⟨values, requests, notices, -, hquiet, hcall⟩ := handleCall_served hc h
      rw [hcall, h.world]
      exact ⟨rfl, ⟨values, rfl⟩, hquiet⟩
  | refused h =>
      obtain ⟨notices, hquiet, hcall⟩ := handleCall_refused hc h
      rw [hcall]
      exact ⟨rfl, ⟨_, rfl⟩, hquiet hcompletes⟩

end RealmDispatch
