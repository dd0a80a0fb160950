/-!
# Compiled policies

The types of `compile/compiled.rs` in `voom-policy`: what a policy source is compiled to
and what plans are made from.
-/

namespace Voom

inductive TrackTarget where
  | video
  | audio
  | subtitle
  | attachment
  deriving DecidableEq

inductive ComparisonOp where
  | eq
  | ne
  | lt
  | lte
  | gt
  | gte
  | contains
  | «matches»
  deriving DecidableEq

inductive DefaultStrategy where
  | first
  | best
  | none
  | preserve
  deriving DecidableEq

inductive RuleMatchMode where
  | first
  | all
  deriving DecidableEq

inductive ErrorStrategy where
  | abort
  | «continue»
  | skip
  deriving DecidableEq

inductive RunIfTrigger where
  | completed
  | modified
  deriving DecidableEq

inductive TrackFilter where
  | languageIn (values : List String)
  | codecIn (values : List String)
  | channels (op : ComparisonOp) (value : Nat)
  | commentary
  | forced
  | default
  | font
  | titleContains (value : String)
  | titleMatches (value : String)
  | not (inner : TrackFilter)
  | and (filters : List TrackFilter)
  | or (filters : List TrackFilter)

inductive CompiledValue where
  | string (value : String)
  | number (value : String)
  | boolean (value : Bool)
  | fieldPath (path : List String)
  | list (values : List CompiledValue)

inductive CompiledCondition where
  | exists (target : TrackTarget) (filter : Option TrackFilter)
  | count (target : TrackTarget) (op : ComparisonOp) (value : Nat)
  | fieldComparison (path : List String) (op : ComparisonOp) (value : CompiledValue)
  | fieldExists (path : List String)
  | predicate (name : String)
  | not (inner : CompiledCondition)
  | and (conditions : List CompiledCondition)
  | or (conditions : List CompiledCondition)

inductive VideoDecodeMode where
  | software
  | nvidia
  | vaapi
  | videoToolbox
  deriving DecidableEq

structure VideoProfileSettings where
  encoder : String
  crf : Option Nat
  cq : Option Nat
  qp : Option Nat
  bitrateKbps : Option Nat
  preset : Option String
  tune : Option String
  codecProfile : Option String
  codecLevel : Option String
  pixelFormat : Option String
  maxWidth : Option Nat
  maxHeight : Option Nat
  outputContainer : Option String
  copyCompatible : Option Bool
  decode : VideoDecodeMode
  deriving DecidableEq

inductive VideoProfileRef where
  | named (name : String)
  | inline (settings : VideoProfileSettings)
  deriving DecidableEq

/-- The profile resolved for planning is filled in later and is not part of it. -/
inductive CompiledOperation where
  | setContainer (container : String)
  | keepTracks (target : TrackTarget) (filter : Option TrackFilter)
  | removeTracks (target : TrackTarget) (filter : Option TrackFilter)
  | reorderTracks (targets : List TrackTarget) (headFilter : Option TrackFilter)
  | setDefaults (target : TrackTarget) (strategy : DefaultStrategy) (filter : Option TrackFilter)
  | clearTrackActions (target : TrackTarget)
  | clearTags
  | setTag (key : String) (value : CompiledValue)
  | deleteTag (key : String)
  | transcodeVideo (targetCodec container : String) (profile : VideoProfileRef)
  | transcodeAudio (targetCodec container : String) (filter : Option TrackFilter)
  | extractAudio (targetCodec container : String) (filter : Option TrackFilter)
  | synthesizeAudio (targetCodec container : String) (targetChannels : Nat)
      (filter : Option TrackFilter)
  | ensureAudioCompatibility
  | placeAudioCompatibility
  | verifyArtifact
  | conditional (condition : CompiledCondition) (operations : List CompiledOperation)
  | rules (mode : RuleMatchMode)
      (rules : List (String × Option CompiledCondition × List CompiledOperation))

structure CompiledRunIf where
  trigger : RunIfTrigger
  phase : String
  deriving DecidableEq

structure CompiledPhase where
  name : String
  dependsOn : List String
  runIf : Option CompiledRunIf
  skipIf : Option CompiledCondition
  onError : Option ErrorStrategy
  operations : List CompiledOperation

structure CompiledConfig where
  languages : List String
  onError : Option ErrorStrategy
  deriving DecidableEq

end Voom
