import PackageSignature.Proofs.Verifier.Answers

/-! A store in use. Signatures are entered and questions asked in any order, and every answer
follows from the last signature that was entered under the path of the question, however that
path was spelled. Its bytes and its size come from one entry, so a verification from the store
is the verification of those bytes for that size and never fails at the source. -/

namespace PackageSignature

namespace SignatureStore

/-- What is asked about a package: for what the store holds, or of a verifier over it. -/
inductive Query where
  | fetch
  | fileSize
  | readEnvelope (config : Config)
  | verify (config : Config) (choice : SignerChoice)

inductive Action where
  | insert (path : Path) (stored : StoredSignature)
  | ask (path : Path) (query : Query)

inductive Answer where
  | fetched (result : Except SourceFault (Option Bytes))
  | sized (result : Except SourceFault UInt64)
  | opened (result : Except VerifyError Envelope)
  | verified (result : Except VerifyError VerifiedSigner)

def perform (store : SignatureStore) : Action → SignatureStore
  | .insert path stored => store.insert path stored
  | .ask _ _ => store

def verifier (store : SignatureStore) (primitives : Primitives) (config : Config) : Verifier where
  primitives := primitives
  source := store.source
  config := config

def answer (store : SignatureStore) (primitives : Primitives) (path : Path) : Query → Answer
  | .fetch => .fetched (store.source.fetch path)
  | .fileSize => .sized (store.source.fileSize path)
  | .readEnvelope config => .opened ((store.verifier primitives config).readEnvelope path).result
  | .verify config choice => .verified ((store.verifier primitives config).verify path choice).result

/-- The answers of a session, one for each action; entering a signature is not answered. -/
def session (primitives : Primitives) : SignatureStore → List Action → List (Option Answer)
  | _, [] => []
  | store, .insert path stored :: later =>
      none :: session primitives (store.perform (.insert path stored)) later
  | store, .ask path query :: later =>
      some (store.answer primitives path query) ::
        session primitives (store.perform (.ask path query)) later

def Action.enters (path : Path) : Action → Bool
  | .insert inserted _ => inserted.same path
  | .ask _ _ => false

/-- The signature that was entered last under the path, if there is one. -/
inductive Latest (path : Path) (actions : List Action) : Option StoredSignature → Prop
  | never (others : ∀ action ∈ actions, action.enters path = false) : Latest path actions none
  | entered {before after : List Action} {inserted : Path} {stored : StoredSignature}
      (split : actions = before ++ .insert inserted stored :: after)
      (same : inserted.same path = true)
      (last : ∀ action ∈ after, action.enters path = false) :
      Latest path actions (some stored)

def Query.expected (primitives : Primitives) (path : Path) (latest : Option StoredSignature) :
    Query → Answer
  | .fetch => .fetched (.ok (latest.map StoredSignature.bytes))
  | .fileSize =>
      .sized (match latest with
        | none => .error notRegistered
        | some stored => .ok stored.fileSize)
  | .readEnvelope config =>
      .opened (match latest with
        | none => .error (.signatureNotFound path)
        | some stored =>
            if stored.bytes = [] then .error (.signatureNotFound path)
            else Verification.decodeEnvelope stored.bytes config.maxSignatureSize)
  | .verify config choice =>
      .verified (match latest with
        | none => .error (.signatureNotFound path)
        | some stored =>
            if stored.bytes = [] then .error (.signatureNotFound path)
            else Verification.verify primitives stored.fileSize stored.bytes choice
              config.maxSignatureSize)

variable {primitives : Primitives} {path : Path} {store other : SignatureStore}
  {actions : List Action}

/-! ### What the store holds -/

theorem find?_perform (store : SignatureStore) (path : Path) (action : Action) :
    (store.perform action).find? path =
      match action with
      | .insert inserted stored =>
          if inserted.same path then some stored else store.find? path
      | .ask _ _ => store.find? path := by
  cases action with
  | insert inserted stored => exact find?_insert store inserted stored path
  | ask asked query => rfl

theorem find?_perform_of_other {action : Action} (others : action.enters path = false) :
    (store.perform action).find? path = store.find? path := by
  rw [find?_perform]
  cases action with
  | insert inserted stored =>
      have different : ¬ inserted.same path = true := Bool.eq_false_iff.mp others
      exact if_neg different
  | ask asked query => rfl

theorem find?_perform_congr (action : Action) (same : store.find? path = other.find? path) :
    (store.perform action).find? path = (other.perform action).find? path := by
  rw [find?_perform, find?_perform, same]

theorem find?_foldl_congr (actions : List Action) (same : store.find? path = other.find? path) :
    (actions.foldl perform store).find? path = (actions.foldl perform other).find? path := by
  induction actions generalizing store other with
  | nil => exact same
  | cons action later ih => exact ih (find?_perform_congr action same)

theorem find?_foldl_of_others (others : ∀ action ∈ actions, action.enters path = false) :
    (actions.foldl perform store).find? path = store.find? path := by
  induction actions generalizing store with
  | nil => rfl
  | cons action later ih =>
      obtain ⟨first, rest⟩ := List.forall_mem_cons.mp others
      rw [List.foldl_cons, ih rest, find?_perform_of_other first]

theorem find?_of_latest {latest : Option StoredSignature} (is : Latest path actions latest) :
    (actions.foldl perform empty).find? path = latest := by
  cases is with
  | never others =>
      rw [find?_foldl_of_others others]
      rfl
  | entered split same last =>
      rw [split, List.foldl_append, List.foldl_cons, find?_foldl_of_others last, find?_perform]
      exact if_pos same

theorem exists_latest (path : Path) (actions : List Action) :
    ∃ latest, Latest path actions latest := by
  induction actions with
  | nil => exact ⟨none, .never (fun _ member => (List.not_mem_nil member).elim)⟩
  | cons action later ih =>
      obtain ⟨latest, is⟩ := ih
      cases is with
      | entered split same last =>
          rw [split]
          exact ⟨_, .entered (List.cons_append ..).symm same last⟩
      | never others =>
          cases enters : action.enters path with
          | false => exact ⟨none, .never (List.forall_mem_cons.mpr ⟨enters, others⟩)⟩
          | true =>
              cases action with
              | insert inserted stored =>
                  exact ⟨some stored, .entered (List.nil_append _).symm enters others⟩
              | ask asked query => cases enters

theorem latest_iff {latest : Option StoredSignature} :
    Latest path actions latest ↔ (actions.foldl perform empty).find? path = latest := by
  constructor
  · intro is
    exact find?_of_latest is
  · intro found
    obtain ⟨other, is⟩ := exists_latest path actions
    rw [find?_of_latest is] at found
    rw [← found]
    exact is

theorem latest_none_iff :
    Latest path actions none ↔ ∀ action ∈ actions, action.enters path = false := by
  constructor
  · intro is
    cases is with
    | never others => exact others
  · intro others
    exact .never others

/-! ### Answers -/

theorem source_of_found {stored : StoredSignature} (found : store.find? path = some stored) :
    store.source.fetch path = .ok (some stored.bytes) ∧
      store.source.fileSize path = .ok stored.fileSize := by
  constructor
  · simp only [source, found, Option.map_some]
  · simp only [source, found]

theorem source_of_not_found (found : store.find? path = none) :
    store.source.fetch path = .ok none ∧
      store.source.fileSize path = .error notRegistered := by
  constructor
  · simp only [source, found, Option.map_none]
  · simp only [source, found]

theorem result_readEnvelope_verifier (store : SignatureStore) (primitives : Primitives)
    (config : Config) (path : Path) :
    .opened ((store.verifier primitives config).readEnvelope path).result =
      (Query.readEnvelope config).expected primitives path (store.find? path) := by
  let verifier := store.verifier primitives config
  cases found : store.find? path with
  | none =>
      obtain ⟨missing, -⟩ := source_of_not_found found
      have opening : verifier.Opening path _ := .missing missing
      exact congrArg Answer.opened opening.result_eq
  | some stored =>
      obtain ⟨fetched, -⟩ := source_of_found found
      by_cases empty : stored.bytes = []
      · have opening : verifier.Opening path _ := .empty (empty ▸ fetched)
        simp only [Query.expected, if_pos empty]
        exact congrArg Answer.opened opening.result_eq
      · have opening : verifier.Opening path _ := .fetched fetched empty
        simp only [Query.expected, if_neg empty]
        exact congrArg Answer.opened opening.result_eq

theorem result_verify_verifier (store : SignatureStore) (primitives : Primitives)
    (config : Config) (path : Path) (choice : SignerChoice) :
    .verified ((store.verifier primitives config).verify path choice).result =
      (Query.verify config choice).expected primitives path (store.find? path) := by
  let verifier := store.verifier primitives config
  cases found : store.find? path with
  | none =>
      obtain ⟨missing, -⟩ := source_of_not_found found
      have verdict : verifier.Verdict path choice _ := .missing missing
      exact congrArg Answer.verified verdict.result_eq
  | some stored =>
      obtain ⟨fetched, sized⟩ := source_of_found found
      by_cases empty : stored.bytes = []
      · have verdict : verifier.Verdict path choice _ := .empty (empty ▸ fetched)
        simp only [Query.expected, if_pos empty]
        exact congrArg Answer.verified verdict.result_eq
      · simp only [Query.expected, if_neg empty]
        have answer : (verifier.verify path choice).result = _ :=
          Verifier.result_verify_of_nonempty fetched empty sized
        exact congrArg Answer.verified answer

theorem answer_eq_expected (store : SignatureStore) (primitives : Primitives) (path : Path)
    (query : Query) :
    store.answer primitives path query = query.expected primitives path (store.find? path) := by
  cases query with
  | fetch => rfl
  | fileSize =>
      cases found : store.find? path with
      | none =>
          obtain ⟨-, unsized⟩ := source_of_not_found found
          exact congrArg Answer.sized unsized
      | some stored =>
          obtain ⟨-, sized⟩ := source_of_found found
          exact congrArg Answer.sized sized
  | readEnvelope config => exact result_readEnvelope_verifier store primitives config path
  | verify config choice => exact result_verify_verifier store primitives config path choice

theorem session_append (primitives : Primitives) (store : SignatureStore)
    (earlier later : List Action) :
    session primitives store (earlier ++ later) =
      session primitives store earlier ++
        session primitives (earlier.foldl perform store) later := by
  induction earlier generalizing store with
  | nil => rfl
  | cons action others ih =>
      cases action with
      | insert path stored => exact congrArg _ (ih _)
      | ask path query => exact congrArg _ (ih _)

@[simp] theorem length_session (primitives : Primitives) (store : SignatureStore)
    (actions : List Action) : (session primitives store actions).length = actions.length := by
  induction actions generalizing store with
  | nil => rfl
  | cons action later ih =>
      cases action with
      | insert path stored => exact congrArg Nat.succ (ih _)
      | ask path query => exact congrArg Nat.succ (ih _)

def reply (primitives : Primitives) (earlier : List Action) (path : Path) (query : Query) :
    Answer :=
  (earlier.foldl perform empty).answer primitives path query

theorem getElem?_session (primitives : Primitives) (earlier later : List Action) (path : Path)
    (query : Query) :
    (session primitives empty (earlier ++ .ask path query :: later))[earlier.length]? =
      some (some (reply primitives earlier path query)) := by
  have passed : (session primitives empty earlier).length ≤ earlier.length :=
    Nat.le_of_eq (length_session primitives empty earlier)
  rw [session_append, List.getElem?_append_right passed, length_session, Nat.sub_self]
  rfl

theorem reply_of_latest {latest : Option StoredSignature} (is : Latest path actions latest)
    (query : Query) :
    reply primitives actions path query = query.expected primitives path latest := by
  rw [reply, answer_eq_expected, find?_of_latest is]

theorem reply_fetch_eq_none_iff :
    reply primitives actions path .fetch = .fetched (.ok none) ↔
      ∀ action ∈ actions, action.enters path = false := by
  obtain ⟨latest, is⟩ := exists_latest path actions
  rw [reply_of_latest is, ← latest_none_iff]
  cases latest with
  | none => exact iff_of_true rfl is
  | some stored =>
      apply iff_of_false
      · intro none
        cases none
      · intro never
        cases (latest_iff.mp is).symm.trans (latest_iff.mp never)

theorem reply_fileSize_eq_error_iff :
    (∃ fault, reply primitives actions path .fileSize = .sized (.error fault)) ↔
      ∀ action ∈ actions, action.enters path = false := by
  obtain ⟨latest, is⟩ := exists_latest path actions
  rw [reply_of_latest is, ← latest_none_iff]
  cases latest with
  | none => exact iff_of_true ⟨_, rfl⟩ is
  | some stored =>
      apply iff_of_false
      · rintro ⟨fault, failed⟩
        cases failed
      · intro never
        cases (latest_iff.mp is).symm.trans (latest_iff.mp never)

theorem reply_of_left_out {before after : List Action} {action : Action}
    (other : action.enters path = false) (query : Query) :
    reply primitives (before ++ after) path query =
      reply primitives (before ++ action :: after) path query := by
  have same : (after.foldl perform (before.foldl perform empty)).find? path =
      (after.foldl perform ((before.foldl perform empty).perform action)).find? path :=
    find?_foldl_congr after (find?_perform_of_other other).symm
  rw [reply, reply, answer_eq_expected, answer_eq_expected, List.foldl_append, List.foldl_append,
    List.foldl_cons, same]

theorem reply_verify_ne_source (config : Config) (choice : SignerChoice) (asked : Path)
    (fault : SourceFault) :
    reply primitives actions path (.verify config choice) ≠
      .verified (.error (.source asked fault)) := by
  intro failed
  obtain ⟨latest, is⟩ := exists_latest path actions
  rw [reply_of_latest is] at failed
  cases latest with
  | none => cases failed
  | some stored =>
      by_cases nothing : stored.bytes = []
      · simp only [Query.expected, if_pos nothing] at failed
        cases failed
      · simp only [Query.expected, if_neg nothing] at failed
        exact Verification.verify_ne_source (Answer.verified.inj failed)

/-- Every answer in a session is what the signature entered last under its path comes to. -/
theorem answers_follow_last_entry (primitives : Primitives) (earlier : List Action)
    (path : Path) :
    (∀ (query : Query) (later : List Action),
      (session primitives empty (earlier ++ .ask path query :: later))[earlier.length]? =
        some (some (reply primitives earlier path query))) ∧
    (∃ latest, (∀ other, Latest path earlier other ↔ other = latest) ∧
      ∀ query, reply primitives earlier path query = query.expected primitives path latest) ∧
    (reply primitives earlier path .fetch = .fetched (.ok none) ↔
      ∀ action ∈ earlier, action.enters path = false) ∧
    ((∃ fault, reply primitives earlier path .fileSize = .sized (.error fault)) ↔
      ∀ action ∈ earlier, action.enters path = false) ∧
    (∀ (before after : List Action) (action : Action) (query : Query),
      earlier = before ++ action :: after → action.enters path = false →
        reply primitives (before ++ after) path query = reply primitives earlier path query) ∧
    ∀ (config : Config) (choice : SignerChoice) (asked : Path) (fault : SourceFault),
      reply primitives earlier path (.verify config choice) ≠
        .verified (.error (.source asked fault)) := by
  refine ⟨?_, ?_, reply_fetch_eq_none_iff, reply_fileSize_eq_error_iff, ?_,
    reply_verify_ne_source⟩
  · intro query later
    exact getElem?_session primitives earlier later path query
  · obtain ⟨latest, is⟩ := exists_latest path earlier
    refine ⟨latest, ?_, reply_of_latest is⟩
    intro other
    rw [latest_iff, latest_iff.mp is, eq_comm]
  · intro before after action query split other
    rw [split]
    exact reply_of_left_out other query

/-- Two signatures under one path that is spelled in two ways, with a question between them,
and one under a path that only looks alike. -/
def sampleActions (first second third : StoredSignature) : List Action :=
  [.insert ⟨"/a//b"⟩ first, .ask ⟨"/a/b"⟩ .fetch, .insert ⟨"/a/./b/"⟩ second,
    .insert ⟨"./a/b"⟩ third]

theorem answers_follow_last_entry_respelled :
    let earlier := sampleActions ⟨[1], 7⟩ ⟨[], 4096⟩ ⟨[3], 9⟩
    reply .standard earlier ⟨"/a/b"⟩ .fetch = .fetched (.ok (some [])) ∧
      reply .standard earlier ⟨"/a/b"⟩ .fileSize = .sized (.ok 4096) ∧
      reply .standard earlier ⟨"/a/b"⟩ (.verify .standard .default) =
        .verified (.error (.signatureNotFound ⟨"/a/b"⟩)) ∧
      reply .standard (earlier.take 3) ⟨"/a/b"⟩ (.verify .standard .default) =
        reply .standard earlier ⟨"/a/b"⟩ (.verify .standard .default) := by
  intro earlier
  obtain ⟨-, ⟨latest, unique, answers⟩, -, -, leftOut, -⟩ :=
    answers_follow_last_entry .standard earlier ⟨"/a/b"⟩
  have other : (Action.insert ⟨"./a/b"⟩ ⟨[3], 9⟩).enters ⟨"/a/b"⟩ = false := by decide +kernel
  have split : earlier = earlier.take 2 ++ .insert ⟨"/a/./b/"⟩ ⟨[], 4096⟩ :: earlier.drop 3 := rfl
  have second : Latest ⟨"/a/b"⟩ earlier (some ⟨[], 4096⟩) :=
    .entered split (by decide +kernel) (List.forall_mem_singleton.mpr other)
  rw [← (unique _).mp second] at answers
  exact ⟨answers _, answers _, answers _, leftOut (earlier.take 3) [] _ _ rfl other⟩

end SignatureStore

end PackageSignature
