import TaintTracking.Data.Basic
import TaintTracking.TrustConfig

/-!
The configuration of a program and how it is read from a document. Every section and most fields
have a default; unknown fields are passed over.
-/

namespace TaintTracking

structure LoggingConfig where
  level : String
  dir : Option String
  deriving DecidableEq, Repr

structure PipelineConfig where
  maxSteps : Nat
  deriving DecidableEq, Repr

structure Config where
  trust : TrustConfig
  logging : LoggingConfig
  pipeline : PipelineConfig
  deriving DecidableEq, Repr

namespace FunctionOverride

def read (form : Data.ListForm) (data : Data) : Option FunctionOverride := do
  match ← data.fields? form ["skill", "function", "sensitive", "force_output_untrusted"] with
  | [some skill, some function, sensitive, force] =>
    return {
      skill := ← skill.asText?
      function := ← function.asText?
      isSensitive := ← Data.orDefault none (Data.asOption? Data.asFlag?) sensitive
      forceOutputUntrusted := ← Data.orDefault none (Data.asOption? Data.asFlag?) force }
  | _ => none

def toData (rule : FunctionOverride) : Data :=
  .ofMembers [("force_output_untrusted", .ofOption .flag rule.forceOutputUntrusted),
    ("function", .ofText rule.function), ("sensitive", .ofOption .flag rule.isSensitive),
    ("skill", .ofText rule.skill)]

end FunctionOverride

namespace TrustConfig

def read (form : Data.ListForm) (data : Data) : Option TrustConfig := do
  match ← data.fields? form ["default_trusted", "functions"] with
  | [defaultTrusted, functions] =>
    return {
      defaultTrusted := ← Data.orDefault true Data.asFlag? defaultTrusted
      functions := ← Data.orDefault [] (Data.asListOf? (FunctionOverride.read form)) functions }
  | _ => none

end TrustConfig

namespace LoggingConfig

def default : LoggingConfig := ⟨"info", none⟩

def read (form : Data.ListForm) (data : Data) : Option LoggingConfig := do
  match ← data.fields? form ["level", "dir"] with
  | [level, dir] =>
    return {
      level := ← Data.orDefault default.level Data.asText? level
      dir := ← Data.orDefault none (Data.asOption? Data.asText?) dir }
  | _ => none

end LoggingConfig

namespace PipelineConfig

def default : PipelineConfig := ⟨64⟩

def read (form : Data.ListForm) (data : Data) : Option PipelineConfig := do
  match ← data.fields? form ["max_steps"] with
  | [maxSteps] => return { maxSteps := ← Data.orDefault default.maxSteps Data.asCount? maxSteps }
  | _ => none

end PipelineConfig

namespace Config

def default : Config := ⟨.default, .default, .default⟩

def read (form : Data.ListForm) (data : Data) : Option Config := do
  match ← data.fields? form ["trust", "logging", "pipeline"] with
  | [trust, logging, pipeline] =>
    return {
      trust := ← Data.orDefault .default (TrustConfig.read form) trust
      logging := ← Data.orDefault .default (LoggingConfig.read form) logging
      pipeline := ← Data.orDefault .default (PipelineConfig.read form) pipeline }
  | _ => none

end Config

end TaintTracking
