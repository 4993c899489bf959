import BrightScript.Span

namespace BrightScript

/-- The stage of loading that a unit failed in. -/
inductive Stage where
  | scan
  | preprocess
  | parse
  deriving DecidableEq, Repr

def Stage.text : Stage → String
  | .scan => "scan"
  | .preprocess => "preprocess"
  | .parse => "parse"

/-- One problem found while loading a unit. The reason stands under the marked source text, the
message in the headline. -/
structure Diagnostic where
  path : String
  stage : Stage
  span : Span
  message : String
  reason : String
  deriving DecidableEq, Repr

def Diagnostic.headline (diagnostic : Diagnostic) : String :=
  diagnostic.stage.text ++ " error: " ++ diagnostic.message

def Diagnostic.display (diagnostic : Diagnostic) : String :=
  diagnostic.path ++ ":" ++ toString diagnostic.span.start ++ ".." ++
    toString diagnostic.span.stop ++ ": " ++ diagnostic.headline

end BrightScript
