import Aise.Domain.Activation.Traces
import Aise.Lib.Greedy

/-! How the bodies of a round are admitted: one after the other, on what the entries before have left
of the budget and of the room for evidence. -/
namespace Aise.Domain
open Effect KnowledgeActivationSession RustText Saturating Transition

/-! ### What a round leaves pending -/

section
variable {request : ActivationRequest} {externals : Externals}
  {allow : Refusal → KnowledgeSourceId → Activated → Prop} {s t : Standing}

/-- Every pending source is known to the index. -/
def Standing.Known (request : ActivationRequest) (s : Standing) : Prop :=
  ∀ (key : KnowledgeSourceId) (candidate : Candidate), s.pending[key]? = some candidate →
    ∃ metadata, request.metadata key = some metadata

theorem RoundChange.known (change : RoundChange request externals allow s t)
    (known : s.Known request) : t.Known request := by
  cases change with
  | enter metadata candidate entrant =>
    intro key other found
    dsimp only at found
    rw [OrdMap.get_insert] at found
    split at found
    · rename_i here
      exact ⟨metadata, here ▸ entrant.known⟩
    · exact known key other found
  | _ => exact known

/-- The sources that a round has admitted and whose bodies it waits for. -/
structure Awaiting (request : ActivationRequest) (admitted : List KnowledgeSourceId)
    (session : KnowledgeActivationSession) : Prop extends Admits admitted session where
  known : ∀ key ∈ admitted, ∃ metadata, request.metadata key = some metadata
  inactive : ∀ key ∈ admitted, session.continuation.activated[key]? = none

theorem nextRound_awaits {before session : KnowledgeActivationSession}
    {outcome : ActivationRoundOutcome}
    (ran : nextRound request externals before = .ok (some outcome) session) :
    Awaiting request outcome.admitted session := by
  have ends : (_ ∧ ∀ outcome t, nextRound request externals before ≠ .ok (some outcome) t) ∨
      ∃ state t, _ ∧ t.pending = ∅ ∧ _ ∧
        nextRound request externals before = (some <$> runRound request externals state) t :=
    nextRound_cases before
  rcases ends with ⟨-, none⟩ | ⟨state, t, -, idle, -, same⟩
  · exact absurd ran (none outcome session)
  · have traces : Meets (fun later => later = t) (runRound request externals state)
        (fun outcome later => Reaches (RoundChange request externals fun _ _ _ => True) t.standing
          later.standing ∧ Admits outcome.admitted later)
        (fun later => Reaches (RoundChange request externals fun _ _ _ => True) t.standing
          later.standing) :=
      runRound_traces state idle (roundAllowed_of_forall (fun _ _ _ => trivial) _)
    have round := traces t rfl
    rw [same] at ran
    change EStateM.map some (runRound request externals state) t = _ at ran
    unfold EStateM.map at ran
    cases inner : runRound request externals state t with
    | error failure later =>
      rw [inner] at ran
      cases ran
    | ok value later =>
      rw [inner] at ran round
      cases ran
      obtain ⟨trace, admits⟩ := round
      have empty : ∀ (key : KnowledgeSourceId) (candidate : Candidate),
          t.standing.pending[key]? ≠ some candidate := by
        intro key candidate found
        have none : t.standing.pending = ∅ := idle
        rw [none, Std.ExtTreeMap.getElem?_empty] at found
        cases found
      have known := Transition.invariant (P := fun s : Standing => s.Known request)
        (fun held change => change.known held) trace
        fun key candidate found => absurd found (empty key candidate)
      have apart := Transition.invariant (P := fun s : Standing => s.Apart)
        (fun held change => change.apart held) trace
        fun key candidate found => absurd found (empty key candidate)
      refine ⟨admits, fun key member => ?_, fun key member => ?_⟩
      · obtain ⟨candidate, found⟩ := OrdMap.mem_iff_exists.mp ((admits.pending key).mpr member)
        exact known key candidate found
      · obtain ⟨candidate, found⟩ := OrdMap.mem_iff_exists.mp ((admits.pending key).mpr member)
        exact (apart key candidate found).1

end

/-! ### One body -/

/-- What admitting an entry uses up. -/
structure Account where
  budget : BudgetUsage
  evidenceBytes : UInt64

def KnowledgeActivationSession.account (session : KnowledgeActivationSession) : Account where
  budget := session.budget
  evidenceBytes := session.continuation.evidenceBytes

section
variable (request : ActivationRequest) (externals : Externals)

/-- The evidence that an entry keeps of its candidate. -/
def keptEvidence (candidate : Candidate) : List ActivationEvidence :=
  (Sorting.sort ActivationEvidence.sortKey candidate.evidence).take
    request.limits.maxEvidencePerEntry.toNat

def evidenceSizeOf (candidate : Candidate) : UInt64 :=
  mul (clamp64 (keptEvidence request candidate).length) externals.evidenceSize

def deliveriesOf (metadata : ActivationEntryMetadata) (candidate : Candidate) :
    List KnowledgeDelivery :=
  sortDedup (defaultDeliveries metadata.kind ++ candidate.deliveries)

/-- The verdict of `admit_body` on a body, with what it leaves. -/
def weighKnown (metadata : ActivationEntryMetadata) (candidate : Candidate)
    (body : ActivationEntryBody) (account : Account) : Greedy.Verdict Account :=
  if metadata.kind ≠ body.kind ∨ body.tokenCost = 0 then .fails
  else if len body.body.value > request.limits.maxSingleEntryBytes.toNat then .refused
  else if add account.evidenceBytes (evidenceSizeOf request externals candidate) >
      request.limits.maxEvidenceBytes then .refused
  else if (deliveriesOf metadata candidate).all (deliverable metadata.kind) then
    match admitDeliveries request.limits ⟨metadata.rule.budgetClass, candidate.mandatory,
        body.tokenCost, deliveriesOf metadata candidate, account.budget⟩ with
    | (.admitted, usage) =>
      .taken ⟨usage, add account.evidenceBytes (evidenceSizeOf request externals candidate)⟩
    | (.rejected, _) => .refused
  else .fails

/-- The verdict on a body for one of the candidates that are pending. -/
def weigh (pending : Candidates) (body : ActivationEntryBody) (account : Account) :
    Greedy.Verdict Account :=
  match pending[body.sourceId]?, request.metadata body.sourceId with
  | some candidate, some metadata => weighKnown request externals metadata candidate body account
  | _, _ => .fails

/-- The entry that a candidate becomes with its body. -/
def entryOf (metadata : ActivationEntryMetadata) (candidate : Candidate)
    (body : ActivationEntryBody) : ActivatedKnowledgeRef where
  sourceId := body.sourceId
  deliveries := deliveriesOf metadata candidate
  activationClass := candidate.candidateClass
  rank := 0
  tokenCost := body.tokenCost
  evidence := keptEvidence request candidate
  ordering := activationOrdering request candidate

/-- The activated entries, with one for a body that was taken. -/
def enter (pending : Candidates) (activated : Activated) (body : ActivationEntryBody) : Activated :=
  match pending[body.sourceId]?, request.metadata body.sourceId with
  | some candidate, some metadata =>
    activated.insert body.sourceId (entryOf request metadata candidate body)
  | _, _ => activated

end

section
variable {request : ActivationRequest} {externals : Externals}
  {session : KnowledgeActivationSession} {metadata : ActivationEntryMetadata}
  {candidate : Candidate} {body : ActivationEntryBody}

/-- What is left of a session by the verdict on a body. -/
def Weighed (request : ActivationRequest) (metadata : ActivationEntryMetadata)
    (candidate : Candidate) (body : ActivationEntryBody) (session : KnowledgeActivationSession)
    (result : EStateM.Result ActivationError KnowledgeActivationSession Unit) :
    Greedy.Verdict Account → Prop
  | .fails => ∃ failure later, result = .error failure later
  | .refused => ∃ later, result = .ok ⟨⟩ later ∧ later.account = session.account ∧
      later.continuation.activated = session.continuation.activated ∧
      later.pending = session.pending
  | .taken left => ∃ later, result = .ok ⟨⟩ later ∧ later.account = left ∧
      later.continuation.activated = session.continuation.activated.insert body.sourceId
        (entryOf request metadata candidate body) ∧
      later.pending = session.pending

theorem trimUnless_weighed {later : KnowledgeActivationSession}
    (optional : mandatory = false) (account : later.account = session.account)
    (activated : later.continuation.activated = session.continuation.activated)
    (pending : later.pending = session.pending) (reason : ActivationRejectionReason) :
    Weighed request metadata candidate body session
      (trimUnless mandatory body.sourceId reason later) .refused := by
  rw [optional]
  exact ⟨_, rfl, account, activated, pending⟩

theorem admitTo_weighed (optional : isMandatory metadata.rule.budgetClass candidate.mandatory = false) :
    Weighed request metadata candidate body session
      ((admitTo request metadata.rule.budgetClass candidate.mandatory body.tokenCost
          (deliveriesOf metadata candidate) >>= fun outcome => match outcome with
        | .rejected => trimUnless (isMandatory metadata.rule.budgetClass candidate.mandatory)
          body.sourceId .budget
        | .admitted => modify (KnowledgeActivationSession.activate request externals metadata candidate body
          (deliveriesOf metadata candidate) (keptEvidence request candidate))) session)
      (match admitDeliveries request.limits ⟨metadata.rule.budgetClass, candidate.mandatory,
          body.tokenCost, deliveriesOf metadata candidate, session.budget⟩ with
        | (.admitted, usage) => .taken
          ⟨usage, add session.continuation.evidenceBytes (evidenceSizeOf request externals candidate)⟩
        | (.rejected, _) => .refused) := by
  generalize booked : Admission.mk metadata.rule.budgetClass candidate.mandatory body.tokenCost
    (deliveriesOf metadata candidate) session.budget = call
  have ran (next : AdmissionOutcome → SessionM Unit) :
      (admitTo request metadata.rule.budgetClass candidate.mandatory body.tokenCost
        (deliveriesOf metadata candidate) >>= next) session =
      next (admitDeliveries request.limits call).1
        { session with
          budget := (admitDeliveries request.limits call).2
          admissions := session.admissions ++ [call] } := by
    rw [← booked]
    rfl
  rw [ran]
  cases outcome : admitDeliveries request.limits call with
  | mk verdict usage =>
    cases verdict with
    | admitted => exact ⟨_, rfl, rfl, rfl, rfl⟩
    | rejected =>
      have kept := admitDeliveries_rejected outcome
      rw [← booked] at kept
      apply trimUnless_weighed optional
      · exact congrArg (Account.mk · session.continuation.evidenceBytes) kept
      · rfl
      · rfl

theorem admitBody_weighed (known : request.metadata body.sourceId = some metadata)
    (optional : isMandatory metadata.rule.budgetClass candidate.mandatory = false) :
    Weighed request metadata candidate body session
      (admitBody request externals candidate body session)
      (weighKnown request externals metadata candidate body session.account) := by
  unfold admitBody weighKnown
  rw [known]
  dsimp only
  split
  · exact ⟨_, _, rfl⟩
  · split
    · exact trimUnless_weighed optional rfl rfl rfl _
    · rw [run_get_bind]
      by_cases full : add session.account.evidenceBytes (evidenceSizeOf request externals candidate) >
          request.limits.maxEvidenceBytes
      · rw [if_pos full]
        refine (congrArg (fun prog : SessionM Unit => Weighed request metadata candidate body session
          (prog session) .refused) (if_pos full)).mpr ?_
        exact trimUnless_weighed optional rfl rfl rfl _
      · rw [if_neg full]
        refine (congrArg (fun prog : SessionM Unit => Weighed request metadata candidate body session
          (prog session) _) (if_neg full)).mpr ?_
        by_cases allowed : (deliveriesOf metadata candidate).all (deliverable metadata.kind) = true
        · have valid : validateDeliveries metadata.kind (deliveriesOf metadata candidate) = pure ⟨⟩ :=
            if_pos allowed
          rw [if_pos allowed]
          refine (congrArg (fun prog : SessionM Unit => Weighed request metadata candidate body session
            ((prog >>= _) session) _) valid).mpr ?_
          exact admitTo_weighed optional
        · have refused : validateDeliveries metadata.kind (deliveriesOf metadata candidate) =
              throw .externalTargetUnauthorized := if_neg allowed
          rw [if_neg allowed]
          refine (congrArg (fun prog : SessionM Unit => Weighed request metadata candidate body session
            ((prog >>= _) session) .fails) refused).mpr ?_
          exact ⟨_, _, rfl⟩

/-! ### The bodies of a round -/

theorem supplyBody_weighed {pending : Candidates}
    (found : session.pending[body.sourceId]? = some candidate)
    (known : request.metadata body.sourceId = some metadata)
    (optional : isMandatory metadata.rule.budgetClass candidate.mandatory = false)
    (same : session.pending[body.sourceId]? = pending[body.sourceId]?) :
    Weighed request metadata candidate body
      { session with pending := session.pending.erase body.sourceId }
      (supplyBody request externals body session)
      (weigh request externals pending body session.account) := by
  rw [weigh, ← same, found, known]
  unfold supplyBody
  rw [run_get_bind, found]
  dsimp only
  rw [run_modify_bind]
  exact admitBody_weighed known optional

/-- What is left of a session by the bodies that were taken. -/
structure Supplied (request : ActivationRequest) (pending : Candidates)
    (bodies : List ActivationEntryBody) (before : KnowledgeActivationSession)
    (result : List ActivationEntryBody × Account) (later : KnowledgeActivationSession) : Prop where
  account : later.account = result.2
  activated : later.continuation.activated =
    result.1.foldl (enter request pending) before.continuation.activated
  pending : ∀ key, later.pending[key]? =
    if key ∈ bodies.map (·.sourceId) then none else before.pending[key]?

/-- The bodies behind one that is no longer pending, and what was taken of it. -/
theorem Supplied.behind {pending : Candidates} {rest taken : List ActivationEntryBody}
    {next later : KnowledgeActivationSession} {result : List ActivationEntryBody × Account}
    (supplied : Supplied request pending rest next result later)
    (left : next.pending = session.pending.erase body.sourceId)
    (activated : next.continuation.activated =
      taken.foldl (enter request pending) session.continuation.activated) :
    Supplied request pending (body :: rest) session (taken ++ result.1, result.2) later where
  account := supplied.account
  activated := by rw [supplied.activated, activated, List.foldl_append]
  pending := by
    intro key
    rw [supplied.pending, left, OrdMap.get_erase, List.map_cons]
    by_cases here : body.sourceId = key
    · simp only [here, if_true, ite_self, List.mem_cons, true_or]
    · simp only [List.mem_cons, here, Ne.symm here, if_false, false_or]

variable (externals)

/-- Bodies of different sources that are pending are supplied as they are weighed. -/
theorem supplyEach_weighed {pending : Candidates} {bodies : List ActivationEntryBody}
    (distinct : (bodies.map (·.sourceId)).Nodup)
    (awaited : ∀ body ∈ bodies, ∃ candidate metadata,
      session.pending[body.sourceId]? = some candidate ∧
        pending[body.sourceId]? = some candidate ∧
        request.metadata body.sourceId = some metadata ∧
        isMandatory metadata.rule.budgetClass candidate.mandatory = false) :
    match Greedy.run (weigh request externals pending) bodies session.account with
    | none => ∃ failure later,
      forM bodies (supplyBody request externals) session = .error failure later
    | some result => ∃ later, forM bodies (supplyBody request externals) session = .ok ⟨⟩ later ∧
      Supplied request pending bodies session result later := by
  induction bodies generalizing session with
  | nil => exact ⟨session, rfl, rfl, rfl, fun key => (if_neg List.not_mem_nil).symm⟩
  | cons body rest ih =>
    obtain ⟨fresh, distinct⟩ := List.nodup_cons.mp distinct
    obtain ⟨⟨candidate, metadata, found, held, known, optional⟩, awaited⟩ :=
      List.forall_mem_cons.mp awaited
    have weighed : Weighed request metadata candidate body
        { session with pending := session.pending.erase body.sourceId }
        (supplyBody request externals body session)
        (weigh request externals pending body session.account) :=
      supplyBody_weighed found known optional (found.trans held.symm)
    have onward {next : KnowledgeActivationSession}
        (left : next.pending = session.pending.erase body.sourceId) :
        ∀ other ∈ rest, ∃ candidate metadata, next.pending[other.sourceId]? = some candidate ∧
          pending[other.sourceId]? = some candidate ∧
          request.metadata other.sourceId = some metadata ∧
          isMandatory metadata.rule.budgetClass candidate.mandatory = false := by
      intro other member
      obtain ⟨candidate, metadata, found, others⟩ := awaited other member
      refine ⟨candidate, metadata, ?_, others⟩
      rw [left, OrdMap.get_erase, if_neg, found]
      intro here
      exact fresh (List.mem_map.mpr ⟨other, member, here.symm⟩)
    rw [Greedy.run, List.forM_cons]
    cases verdict : weigh request externals pending body session.account with
    | fails =>
      rw [verdict] at weighed
      obtain ⟨failure, later, failed⟩ := weighed
      exact ⟨failure, later, run_bind_of_error _ failed⟩
    | refused =>
      rw [verdict] at weighed
      obtain ⟨next, done, account, activated, left⟩ := weighed
      have unchanged : next.account = session.account := account
      have later := ih distinct (onward left)
      rw [unchanged] at later
      dsimp only
      rw [run_bind_of_ok _ done]
      cases ran : Greedy.run (weigh request externals pending) rest session.account with
      | none =>
        rw [ran] at later
        exact later
      | some result =>
        rw [ran] at later
        obtain ⟨last, finished, supplied⟩ := later
        have entered : next.continuation.activated =
            [].foldl (enter request pending) session.continuation.activated := activated
        exact ⟨last, finished, supplied.behind left entered⟩
    | taken account =>
      rw [verdict] at weighed
      obtain ⟨next, done, same, activated, left⟩ := weighed
      have later := ih distinct (onward left)
      rw [same] at later
      dsimp only
      rw [run_bind_of_ok _ done]
      cases ran : Greedy.run (weigh request externals pending) rest account with
      | none =>
        rw [ran] at later
        exact later
      | some result =>
        rw [ran] at later
        obtain ⟨last, finished, supplied⟩ := later
        have entered : next.continuation.activated =
            [body].foldl (enter request pending) session.continuation.activated := by
          rw [activated, List.foldl_cons, enter, held, known]
          rfl
        exact ⟨last, finished, supplied.behind left entered⟩

/-- The same, once it was seen that no source is left waiting. -/
theorem supplyBodies_weighed {pending : Candidates} {bodies : List ActivationEntryBody}
    (distinct : (bodies.map (·.sourceId)).Nodup)
    (awaited : ∀ body ∈ bodies, ∃ candidate metadata,
      session.pending[body.sourceId]? = some candidate ∧
        pending[body.sourceId]? = some candidate ∧
        request.metadata body.sourceId = some metadata ∧
        isMandatory metadata.rule.budgetClass candidate.mandatory = false)
    (all : ∀ key, key ∉ bodies.map (·.sourceId) → session.pending[key]? = none) :
    match Greedy.run (weigh request externals pending) bodies session.account with
    | none => ∃ failure later,
      supplyBodies request externals bodies session = .error failure later
    | some result => ∃ later, supplyBodies request externals bodies session = .ok ⟨⟩ later ∧
      Supplied request pending bodies session result later := by
  have each := supplyEach_weighed externals distinct awaited
  unfold supplyBodies
  cases ran : Greedy.run (weigh request externals pending) bodies session.account with
  | none =>
    rw [ran] at each
    obtain ⟨failure, later, failed⟩ := each
    exact ⟨failure, later, run_bind_of_error _ failed⟩
  | some result =>
    rw [ran] at each
    obtain ⟨later, done, supplied⟩ := each
    have empty : later.pending.isEmpty = true := by
      rw [Std.ExtTreeMap.isEmpty_iff]
      refine Std.ExtTreeMap.ext_getElem? fun key => ?_
      rw [supplied.pending, Std.ExtTreeMap.getElem?_empty]
      split
      · rfl
      · exact all key ‹_›
    refine ⟨later, ?_, supplied⟩
    rw [run_bind_of_ok _ done, run_get_bind, if_pos empty]
    rfl

/-! ### The entries of a round -/

section
variable {externals} {pending : Candidates} {activated base : Activated} {bodies : List ActivationEntryBody}
  {key : KnowledgeSourceId}

theorem get_enter_of_ne (apart : body.sourceId ≠ key) :
    (enter request pending activated body)[key]? = activated[key]? := by
  unfold enter
  split
  · rw [OrdMap.get_insert, if_neg apart]
  · rfl

theorem get_enter_self (found : pending[body.sourceId]? = some candidate)
    (known : request.metadata body.sourceId = some metadata) :
    (enter request pending activated body)[body.sourceId]? =
      some (entryOf request metadata candidate body) := by
  rw [enter, found, known]
  exact (OrdMap.get_insert _ _ _).trans (if_pos rfl)

theorem get_entered_of_absent (absent : ∀ body ∈ bodies, body.sourceId ≠ key) :
    (bodies.foldl (enter request pending) base)[key]? = base[key]? := by
  induction bodies generalizing base with
  | nil => rfl
  | cons body rest ih =>
    obtain ⟨apart, absent⟩ := List.forall_mem_cons.mp absent
    rw [List.foldl_cons, ih absent, get_enter_of_ne apart]

theorem get_entered_of_mem (member : body ∈ bodies)
    (alone : ∀ other ∈ bodies, other.sourceId = body.sourceId → other = body)
    (found : pending[body.sourceId]? = some candidate)
    (known : request.metadata body.sourceId = some metadata) :
    (bodies.foldl (enter request pending) base)[body.sourceId]? =
      some (entryOf request metadata candidate body) := by
  induction bodies generalizing base with
  | nil => cases member
  | cons first rest ih =>
    obtain ⟨here, alone⟩ := List.forall_mem_cons.mp alone
    rw [List.foldl_cons]
    by_cases later : body ∈ rest
    · exact ih later alone
    · have absent : ∀ other ∈ rest, other.sourceId ≠ body.sourceId := by
        intro other inside same
        exact later (alone other inside same ▸ inside)
      obtain rfl : body = first := (List.mem_cons.mp member).resolve_right later
      rw [get_entered_of_absent absent]
      exact get_enter_self found known

/-- Bodies of sources that were inactive enter the same way only if they are the same bodies. -/
theorem entered_eq_iff {first second : List ActivationEntryBody}
    (within : ∀ body ∈ first, body ∈ bodies) (within' : ∀ body ∈ second, body ∈ bodies)
    (alone : ∀ body ∈ bodies, ∀ other ∈ bodies, other.sourceId = body.sourceId → other = body)
    (awaited : ∀ body ∈ bodies, ∃ candidate metadata, pending[body.sourceId]? = some candidate ∧
      request.metadata body.sourceId = some metadata)
    (inactive : ∀ body ∈ bodies, base[body.sourceId]? = none) :
    first.foldl (enter request pending) base = second.foldl (enter request pending) base ↔
      ∀ body, body ∈ first ↔ body ∈ second := by
  have active {list : List ActivationEntryBody} (within : ∀ body ∈ list, body ∈ bodies)
      {body : ActivationEntryBody} (member : body ∈ bodies) :
      (list.foldl (enter request pending) base)[body.sourceId]? ≠ none ↔ body ∈ list := by
    constructor
    · intro entered
      by_contra absent
      refine entered ((get_entered_of_absent fun other inside same => ?_).trans (inactive body member))
      exact absent (alone body member other (within other inside) same ▸ inside)
    · intro inside
      obtain ⟨candidate, metadata, found, known⟩ := awaited body member
      rw [get_entered_of_mem inside (fun other there => alone body member other (within other there))
        found known]
      exact Option.some_ne_none _
  constructor
  · intro same body
    constructor
    · intro inside
      have entered := (active within (within body inside)).mpr inside
      rw [same] at entered
      exact (active within' (within body inside)).mp entered
    · intro inside
      have entered := (active within' (within' body inside)).mpr inside
      rw [← same] at entered
      exact (active within (within' body inside)).mp entered
  · intro same
    refine Std.ExtTreeMap.ext_getElem? fun key => ?_
    by_cases held : ∃ body ∈ first, body.sourceId = key
    · obtain ⟨body, inside, rfl⟩ := held
      have member := within body inside
      obtain ⟨candidate, metadata, found, known⟩ := awaited body member
      rw [get_entered_of_mem inside (fun other there => alone body member other (within other there))
        found known, get_entered_of_mem ((same body).mp inside)
          (fun other there => alone body member other (within' other there)) found known]
    · have absent : ∀ body ∈ first, body.sourceId ≠ key := fun body inside here =>
        held ⟨body, inside, here⟩
      have absent' : ∀ body ∈ second, body.sourceId ≠ key := fun body inside =>
        absent body ((same body).mpr inside)
      rw [get_entered_of_absent absent, get_entered_of_absent absent']

/-- Of bodies from one supply, two runs activate the same entries only if they take the same. -/
theorem activated_eq_iff {first second : List ActivationEntryBody} {account : Account}
    (within : ∀ body ∈ first, body ∈ bodies) (within' : ∀ body ∈ second, body ∈ bodies)
    (alone : ∀ body ∈ bodies, ∀ other ∈ bodies, other.sourceId = body.sourceId → other = body)
    (awaited : ∀ body ∈ bodies, ∃ candidate metadata, pending[body.sourceId]? = some candidate ∧
      request.metadata body.sourceId = some metadata)
    (inactive : ∀ body ∈ bodies, base[body.sourceId]? = none) :
    ((Greedy.run (weigh request externals pending) first account).map fun result =>
        result.1.foldl (enter request pending) base) =
      ((Greedy.run (weigh request externals pending) second account).map fun result =>
        result.1.foldl (enter request pending) base) ↔
      Greedy.takes (weigh request externals pending) first account =
        Greedy.takes (weigh request externals pending) second account := by
  unfold Greedy.takes
  cases ran : Greedy.run (weigh request externals pending) first account with
  | none =>
    cases ran' : Greedy.run (weigh request externals pending) second account with
    | none => exact iff_of_true rfl rfl
    | some other => exact iff_of_false nofun nofun
  | some result =>
    cases ran' : Greedy.run (weigh request externals pending) second account with
    | none => exact iff_of_false nofun nofun
    | some other =>
      have inside (body : ActivationEntryBody) (taken : body ∈ result.1) : body ∈ bodies :=
        within body (Greedy.run_subset ran body taken)
      have inside' (body : ActivationEntryBody) (taken : body ∈ other.1) : body ∈ bodies :=
        within' body (Greedy.run_subset ran' body taken)
      simp only [Option.map_some, Option.some.injEq]
      rw [entered_eq_iff inside inside' alone awaited inactive, Set.ext_iff]
      rfl

end

end

end Aise.Domain
