/-
# Completion -- proposals at a cursor

A request names a cursor, the text typed before it and what the document imports.
The answer is a list of proposals: the roots at the cursor are collected, chains to
the expected type are searched for, the best of them are chosen and written.

There is always an answer.  Settings that are off or at fault, a cursor with
nothing to search for and a request that was cancelled give an empty list; a
search that ran out of time gives what it found.

Each proposal carries its place in the list as a text of at least five digits, for
clients that sort by text.
-/
import ChainCompletion.Origins
import ChainCompletion.Ranking
import ChainCompletion.Search.Run

namespace ChainCompletion

open Text

set_option autoImplicit false

/-- How the inserted text is to be understood. -/
inductive InsertFormat where
  | plainText
  | snippet
  deriving DecidableEq

/-- One proposal. -/
structure Proposal where
  texts : ChainTexts
  format : InsertFormat
  sortKey : String
  deriving DecidableEq

/-- What a client asks for. -/
structure CompletionRequest where
  cursor : Cursor
  /-- The text typed before the cursor. -/
  typed : String
  scope : ImportScope
  deriving DecidableEq

/-- The form in which settings ask for text. -/
def Settings.format (settings : Settings) : InsertFormat :=
  if settings.snippets then .snippet else .plainText

/-- A place in the list as a text of at least five digits. -/
def sortKey (place : Nat) : String :=
  let digits := Nat.toDigits 10 place
  String.ofList (List.replicate (5 - digits.length) '0' ++ digits)

variable {σ : Type}

/-- The proposals for chains that a search found. -/
def Settings.propose (settings : Settings) (arena : TypeArena) (scope : ImportScope)
    (chains : List Chain) : List Proposal :=
  let (best, renderer) :=
    (Renderer.fresh arena scope settings.snippets).best settings.maxResults chains
  let rendered := (threadMap Renderer.render renderer best).1
  rendered.zipIdx.map fun (texts, place) => ⟨texts, settings.format, sortKey place⟩

/-- The proposals for chains from these roots. -/
def completeFrom (view : ProgramView σ) (settings : Settings) (signals : Search.Signals)
    (limits : Search.Limits) (request : CompletionRequest) (set : Origins) (state : σ) :
    List Proposal × σ :=
  let goal : Search.Request :=
    { target := set.target
      roots := set.roots
      companions := set.companions
      callSite := view.callSite state request.cursor
      typed := request.typed }
  let (outcome, state) := Search.run view signals limits goal state
  match outcome.reason with
  | .cancelled => ([], state)
  | _ => (settings.propose (view.arena state) request.scope outcome.chains, state)

/-- The proposals for a request. -/
def complete (view : ProgramView σ) (settings : Settings) (signals : Search.Signals)
    (request : CompletionRequest) (state : σ) : List Proposal × σ :=
  if settings.enabled then
    match Search.Limits.ofSettings settings with
    | .error _ => ([], state)
    | .ok limits =>
        match Origins.collect view settings state request.cursor request.typed with
        | (none, state) => ([], state)
        | (some set, state) =>
            completeFrom view settings signals limits request set state
  else ([], state)

end ChainCompletion
