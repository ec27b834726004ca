import Intercept.Define
import Intercept.Event

/-!
# One invocation as one command line

The tokens of an intercepted invocation are written behind the host compiler, each followed by a
blank, and the first token that names an existing source file is the source of the invocation. A
compiler define is written in its quoted form, and is never taken for a source.
-/

namespace Intercept.Invocation

/-- The ending of a source file's name. -/
def sourceEnding : Bytes := Bytes.ofChars ['.', 'c']

/-- Whether a token may name a source file: it ends in `.c` and is longer than that. -/
def mayBeSource (token : Bytes) : Bool :=
  sourceEnding.length < token.length && sourceEnding.isSuffixOf token

/-- What becomes of the tokens: the text that is passed on, the source, the names that were looked
up, in order, and what there is to tell. -/
structure Assembly where
  command : Bytes
  source : Option Bytes
  lookups : List Bytes
  events : List Event
  deriving DecidableEq, Repr

/-- A token in front of those already assembled. -/
def Assembly.push (written : Bytes) (lookups : List Bytes) (events : List Event) (rest : Assembly) :
    Assembly :=
  { command := written ++ Bytes.space :: rest.command
    source := rest.source
    lookups := lookups ++ rest.lookups
    events := events ++ rest.events }

/-- The tokens from some point on, where `source` is what was found before. Names are looked up
with `names` until one of them names something. -/
def assembleFrom (names : Bytes → Bool) (source : Option Bytes) : List Bytes → Assembly
  | [] => { command := [], source, lookups := [], events := [] }
  | token :: rest =>
    match Define.requote? token with
    | some requoted =>
      (assembleFrom names source rest).push requoted [] [.requoted token requoted]
    | none =>
      if source.isNone && mayBeSource token then
        if names token then
          (assembleFrom names (some token) rest).push token [token] [.foundSource token]
        else (assembleFrom names source rest).push token [token] []
      else (assembleFrom names source rest).push token [] []

/-- The command line of an invocation, and its source. -/
def assemble (host : Bytes) (names : Bytes → Bool) (tokens : List Bytes) : Assembly :=
  (assembleFrom names none tokens).push host [] []

end Intercept.Invocation
