import TaintTracking.Program.Run

/-!
Callables written down as lists of commands. Texts are templates, filled in from what the callable
was given and what its context holds when the text is needed.
-/

namespace TaintTracking

namespace Script

/-- A piece of a template: a text as it stands, or something to be looked up. -/
inductive Piece where
  | literal (text : String)
  | input
  | prompt
  | result
  | display
  | cancelled
  | variable (name : String)

abbrev Template := List Piece

inductive Command where
  | edit (change : Store.Edit)
  | note (text : Template)
  | fail (cause : Cause)
  | cancel
  | sleep (ms : Nat)
  | invoke (function : SkillFunction) (propagate : Bool)

/-- Where the context that a callable returns comes from. -/
inductive Source where
  | share
  | clone
  | input (text : Template)
  | value (value : TaintedValue)

structure NewContext where
  source : Source
  edits : List Store.Edit
  error : Option InvocationError

end Script

/-- The commands of a callable, and what it gives for each kind of output. -/
structure Script where
  commands : List Script.Command
  text : Script.Template
  context : Script.NewContext

namespace Script

/-- What a callable was given, with `n` contexts in scope. -/
structure Given (n : Nat) where
  input : String
  prompt : String
  context : Option (Fin n)

def Given.grow {n : Nat} (given : Given n) : Given (n + 1) :=
  { input := given.input, prompt := given.prompt, context := given.context.map Fin.castSucc }

variable {output : OutputShape}

/-- Looks something up in the given context; without one it is empty. -/
def lookUp {n : Nat} (given : Given n) (read : Snapshot → String)
    (next : String → Program output n) : Program output n :=
  match given.context with
  | none => next ""
  | some context => .act (.observe context) fun snapshot => next (read snapshot)

def Piece.fill {n : Nat} (given : Given n) (next : String → Program output n) :
    Piece → Program output n
  | .literal text => next text
  | .input => next given.input
  | .prompt => next given.prompt
  | .result => lookUp given (fun snapshot => snapshot.store.main.content) next
  | .display => lookUp given Snapshot.display next
  | .cancelled => .act .checkCancelled fun cancelled => next ((cancelled.map toString).getD "none")
  | .variable name => lookUp given (fun snapshot => (snapshot.store.get name).content) next

def Template.fill {n : Nat} (given : Given n) :
    Template → (String → Program output n) → Program output n
  | [], next => next ""
  | piece :: pieces, next =>
    piece.fill given fun text => Template.fill given pieces fun more => next (text ++ more)

/-- What follows a nested invocation: a note of what came back, and the failure if there is one and
it is to be passed on. -/
def afterNested {n : Nat} (propagate : Bool) (next : Program output (n + 1)) :
    Program output (n + 1) :=
  .act (.observe (Fin.last n)) fun snapshot =>
    .act (.note ("nested:" ++ snapshot.display)) fun _ =>
      if propagate && snapshot.error.isSome then
        .fail (.ofRoot ("nested: " ++ snapshot.description))
      else next

/-- Commands that need a context do nothing without one. -/
def perform : List Command → {n : Nat} → Given n →
    ({m : Nat} → Given m → Program output m) → Program output n
  | [], _, given, finish => finish given
  | .edit change :: rest, _, given, finish =>
    match given.context with
    | none => perform rest given finish
    | some context => .act (.edit context change) fun _ => perform rest given finish
  | .note text :: rest, _, given, finish =>
    Template.fill given text fun text => .act (.note text) fun _ => perform rest given finish
  | .fail cause :: _, _, _, _ => .fail cause
  | .cancel :: rest, _, given, finish => .act .cancel fun _ => perform rest given finish
  | .sleep ms :: rest, _, given, finish => .act (.sleep ms) fun _ => perform rest given finish
  | .invoke function propagate :: rest, _, given, finish =>
    match given.context with
    | none => perform rest given finish
    | some context =>
      .invoke context function (afterNested propagate (perform rest given.grow finish))

namespace NewContext

/-- Brings the new context into scope, writes to it, and gives it. -/
def build {n : Nat} (new : NewContext) (origin : Origin n) : Program .context n :=
  let finish : Program .context (n + 1) :=
    match new.error with
    | none => .done (Fin.last n)
    | some error => .act (.fail (Fin.last n) error) fun _ => .done (Fin.last n)
  let write (change : Store.Edit) (next : Program .context (n + 1)) : Program .context (n + 1) :=
    .act (.edit (Fin.last n) change) fun _ => next
  .introduce origin (new.edits.foldr write finish)

def give {n : Nat} (new : NewContext) (given : Given n) : Program .context n :=
  match new.source, given.context with
  | .share, some context => new.build (.share context)
  | .clone, some context => new.build (.clone context)
  | .input text, _ =>
    Template.fill given text fun text => new.build (.fresh (Store.ofMain (.ofText text)))
  | .value value, _ => new.build (.fresh (Store.ofMain value))
  | _, none => new.build (.fresh Store.new)

end NewContext

def give {n : Nat} (script : Script) (given : Given n) : (output : OutputShape) → Program output n
  | .nothing => .done ()
  | .text => Template.fill given script.text (@Program.done .text n)
  | .context => script.context.give given

def program {n : Nat} (script : Script) (given : Given n) (output : OutputShape) :
    Program output n :=
  perform script.commands given fun given => script.give given output

def argumentText : (shape : InputShape) → shape.Argument → String
  | .text, input => input
  | .textAndContext, input => input
  | .nothing, _ => ""
  | .context, _ => ""

def givenContext : (shape : InputShape) → Option (Fin shape.contexts)
  | .context => some 0
  | .textAndContext => some 0
  | .nothing => none
  | .text => none

def Command.needsAsync : Command → Bool
  | .sleep _ => true
  | .invoke _ _ => true
  | _ => false

/-- A synchronous body neither sleeps nor invokes. -/
def body (script : Script) (shape : Shape) : NativeBody where
  shape
  code argument :=
    let commands := script.commands.filter fun command => shape.asynchronous || !command.needsAsync
    { script with commands }.program
      ⟨argumentText shape.input argument, "", givenContext shape.input⟩ shape.output

def renderer (script : Script) : Program .text 1 := script.program ⟨"", "", some 0⟩ .text

def backend (script : Script) (prompt : String) : Program .text 0 :=
  script.program ⟨"", prompt, none⟩ .text

end Script

end TaintTracking
