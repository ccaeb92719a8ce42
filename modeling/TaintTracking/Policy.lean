import TaintTracking.Session.Basic

/-!
Trust policies. A policy is consulted before a function runs, and once more on the rendered prompt
of a semantic function. It sees the descriptor and the variables and changes neither.
-/

namespace TaintTracking

/-- The contextual policy refuses a sensitive function unless every variable is trusted. A scripted
policy answers by the number of earlier consultations, with or without regard to the context; it may
have an answer of its own for rendered prompts. -/
inductive Policy where
  | contextual (defaultTrusted : Bool)
  | scripted (id : PolicyId) (label : String)
      (answer : Nat → Descriptor → Store → Except TrustError Bool)
      (tag : Option (Nat → Descriptor → Store → String → Except TrustError TaintedValue))

namespace Policy

def default : Policy := .contextual true

instance : Inhabited Policy := ⟨default⟩

def blocked (descriptor : Descriptor) : TrustError :=
  .sensitiveOnUntrusted descriptor.skill descriptor.function

/-- The verdict of the contextual policy. -/
def contextualVerdict (defaultTrusted : Bool) (descriptor : Descriptor) (store : Store) :
    Except TrustError Bool :=
  if descriptor.isSensitive && !store.isAllTrusted then .error (blocked descriptor)
  else .ok (store.isAllTrusted && defaultTrusted)

def logVerdict (descriptor : Descriptor) (verdict : Except TrustError Bool) (s : Session) : Session :=
  match verdict with
  | .error _ => s.log (.blockedSensitive descriptor.skill descriptor.function)
  | .ok _ => s

/-- Counts the consultation and keeps what it said. -/
def account (id : PolicyId) (descriptor : Descriptor) (store : Store)
    (verdict : Except TrustError Bool) (s : Session) : Session :=
  { s with consultations := assign s.consultations id (s.consultations id + 1) }.record
    (.consulted descriptor store verdict)

def consult (policy : Policy) (descriptor : Descriptor) (context : Context) (s : Session) :
    Except TrustError Bool × Session :=
  let store := s.storeOf context
  match policy with
  | .contextual defaultTrusted =>
    let verdict := contextualVerdict defaultTrusted descriptor store
    (verdict, (logVerdict descriptor verdict s).record (.consulted descriptor store verdict))
  | .scripted id _ answer _ =>
    let verdict := answer (s.consultations id) descriptor store
    (verdict, account id descriptor store verdict s)

/-- Tags a rendered prompt with the verdict on the context as rendering left it. -/
def consultRendered (policy : Policy) (descriptor : Descriptor) (context : Context)
    (rendered : String) (s : Session) : Except TrustError TaintedValue × Session :=
  match policy with
  | .scripted id _ _ (some tag) =>
    let store := s.storeOf context
    let tagged := tag (s.consultations id) descriptor store rendered
    (tagged, account id descriptor store (tagged.map (·.trusted)) s)
  | _ =>
    let (verdict, s) := policy.consult descriptor context s
    (verdict.map fun trusted => ⟨rendered, trusted⟩, s)

/-- Gives prepared answers in turn, the last one again and again. -/
def ofAnswers (id : PolicyId) (label : String) (last : Descriptor → Except TrustError Bool)
    (earlier : List (Descriptor → Except TrustError Bool)) : Policy :=
  .scripted id label (fun index descriptor _ => (earlier[index]?.getD last) descriptor) none

def inspect : Policy → String
  | .contextual defaultTrusted =>
    "DefaultTrustPolicy \x7b default_trusted: " ++ toString defaultTrusted ++ " \x7d"
  | .scripted _ label _ _ => label

end Policy

end TaintTracking
