import TaintTracking.Program.Basic

/-!
The twenty-four ways to make a native body, one for each type that its code may have. The shape of the
body is read off the way in which its code is called and off its output.
-/

namespace TaintTracking

/-- How the code of a native body is called. -/
inductive Call where
  | nothing
  | text
  | context
  | textAndContext
  | asyncNothing
  | asyncText
  | asyncContext
  | asyncTextAndContext
  deriving DecidableEq, Repr

namespace Call

def input : Call → InputShape
  | .nothing => .nothing
  | .asyncNothing => .nothing
  | .text => .text
  | .asyncText => .text
  | .context => .context
  | .asyncContext => .context
  | .textAndContext => .textAndContext
  | .asyncTextAndContext => .textAndContext

def isAsynchronous : Call → Bool
  | .asyncNothing => true
  | .asyncText => true
  | .asyncContext => true
  | .asyncTextAndContext => true
  | _ => false

end Call

namespace NativeBody

inductive Constructor where
  | syncNothingToNothing
  | syncTextToNothing
  | syncContextToNothing
  | syncTextAndContextToNothing
  | syncNothingToText
  | syncTextToText
  | syncContextToText
  | syncTextAndContextToText
  | syncNothingToContext
  | syncTextToContext
  | syncContextToContext
  | syncTextAndContextToContext
  | asyncNothingToNothing
  | asyncTextToNothing
  | asyncContextToNothing
  | asyncTextAndContextToNothing
  | asyncNothingToText
  | asyncTextToText
  | asyncContextToText
  | asyncTextAndContextToText
  | asyncNothingToContext
  | asyncTextToContext
  | asyncContextToContext
  | asyncTextAndContextToContext
  deriving DecidableEq, Repr

namespace Constructor

/-- What a constructor stores: how to call the code, and what to do with what it gives. -/
def form : Constructor → Call × OutputShape
  | .syncNothingToNothing => (.nothing, .nothing)
  | .syncTextToNothing => (.text, .nothing)
  | .syncContextToNothing => (.context, .nothing)
  | .syncTextAndContextToNothing => (.textAndContext, .nothing)
  | .syncNothingToText => (.nothing, .text)
  | .syncTextToText => (.text, .text)
  | .syncContextToText => (.context, .text)
  | .syncTextAndContextToText => (.textAndContext, .text)
  | .syncNothingToContext => (.nothing, .context)
  | .syncTextToContext => (.text, .context)
  | .syncContextToContext => (.context, .context)
  | .syncTextAndContextToContext => (.textAndContext, .context)
  | .asyncNothingToNothing => (.asyncNothing, .nothing)
  | .asyncTextToNothing => (.asyncText, .nothing)
  | .asyncContextToNothing => (.asyncContext, .nothing)
  | .asyncTextAndContextToNothing => (.asyncTextAndContext, .nothing)
  | .asyncNothingToText => (.asyncNothing, .text)
  | .asyncTextToText => (.asyncText, .text)
  | .asyncContextToText => (.asyncContext, .text)
  | .asyncTextAndContextToText => (.asyncTextAndContext, .text)
  | .asyncNothingToContext => (.asyncNothing, .context)
  | .asyncTextToContext => (.asyncText, .context)
  | .asyncContextToContext => (.asyncContext, .context)
  | .asyncTextAndContextToContext => (.asyncTextAndContext, .context)

def shape (constructor : Constructor) : Shape :=
  let (call, output) := constructor.form
  ⟨call.input, output, call.isAsynchronous⟩

def make (constructor : Constructor)
    (code : constructor.shape.input.Argument →
      Program constructor.shape.output constructor.shape.input.contexts) : NativeBody :=
  ⟨constructor.shape, code⟩

@[simp] theorem shape_make (constructor : Constructor)
    (code : constructor.shape.input.Argument →
      Program constructor.shape.output constructor.shape.input.contexts) :
    (constructor.make code).shape = constructor.shape := rfl

end Constructor

end NativeBody

end TaintTracking
