import RecordQuery.Evaluation.Evaluator
import RecordQuery.Http.Channel
import RecordQuery.Paging.Page
import RecordQuery.Query.Basic

/-!
# Paged runs

A query is run by asking for its first page and following the links of the pages. The run ends
when a page has no link, when enough records are held, or with the first failure. Cancellation is
looked at before every request and at no other time.
-/
namespace RecordQuery.Paging

/-- What a run has gathered: the records in the order of the service, the first count that a page
gave, and the number of pages. -/
structure Collected where
  records : List Json := []
  totalCount : Option Nat := none
  pages : Nat := 0

/-- A query to be run, and the style of booleans in which records are read. -/
structure Plan where
  query : Query
  style : BooleanStyle

inductive Progress where
  | asking (request : Request) (collected : Collected)
  | finished (result : Except Failure Collected)

def isEnough (limit : Option Nat) (held : Nat) : Bool := limit.any (· ≤ held)

/-- Asks for a page, unless enough is held or the run is cancelled. -/
def ask (plan : Plan) (cancelled : Bool) (request : Request) (c : Collected) : Progress :=
  if isEnough plan.query.limit c.records.length then .finished (.ok c)
  else if cancelled then .finished (.error .cancelled)
  else .asking request c

def start (plan : Plan) (cancelled : Bool) : Progress :=
  match plan.query.collectionRequest with
  | .error e => .finished (.error e)
  | .ok request => ask plan cancelled request {}

/-- Adds the records that fulfil a predicate, in order, and looks at none after enough are
held. -/
def addMatches (style : BooleanStyle) (p : Predicate) (limit : Option Nat) :
    List Json → List Json → Except Failure (List Json)
  | held, [] => .ok held
  | held, record :: rest => do
    if ← p.holds style record then
      let held := held ++ [record]
      if isEnough limit held.length then return held else addMatches style p limit held rest
    else addMatches style p limit held rest

def addAll (limit : Option Nat) (held records : List Json) : List Json :=
  let all := held ++ records
  match limit with
  | some n => all.take n
  | none => all

def addPage (plan : Plan) (c : Collected) (page : Page) : Except Failure Collected := do
  let records ← match plan.query.localFilter with
    | some p => addMatches plan.style p plan.query.limit c.records page.records
    | none => .ok (addAll plan.query.limit c.records page.records)
  return ⟨records, c.totalCount.or page.totalCount, c.pages + 1⟩

/-- The request for the page behind a link. Links are complete and carry every option. -/
def followUp (plan : Plan) (link : String) : Request := .get link plan.query.headers

def decodePage (response : Response) : Except Failure Page :=
  if !response.isSuccess then .error response.failure
  else match Page.parse? response.body with
    | some page => .ok page
    | none => .error .undecodable

def receive (plan : Plan) (cancelled : Bool) (c : Collected) (reply : Except Failure Response) :
    Progress :=
  match reply >>= decodePage with
  | .error e => .finished (.error e)
  | .ok page =>
    match addPage plan c page with
    | .error e => .finished (.error e)
    | .ok c =>
      match page.continuation with
      | none => .finished (.ok c)
      | some link => ask plan cancelled (followUp plan link) c

/-- The result of a run, and whether it has been cancelled in the end. -/
structure Outcome where
  result : Except Failure Collected
  cancelled : Bool

def advance {σ : Type} (channel : Channel σ) (plan : Plan) :
    Nat → Bool → σ → Progress → Trace σ Outcome
  | _, cancelled, s, .finished result => ⟨⟨result, cancelled⟩, [], s⟩
  | 0, cancelled, s, .asking .. => ⟨⟨.error Script.exhausted, cancelled⟩, [], s⟩
  | n + 1, cancelled, s, .asking request c =>
    let (d, s) := channel.send request s
    let cancelled := cancelled || d.cancels
    let rest := advance channel plan n cancelled s (receive plan cancelled c d.reply)
    { rest with requests := request :: rest.requests }

def run {σ : Type} (channel : Channel σ) (plan : Plan) (cancelled : Bool) (s : σ) :
    Trace σ Outcome :=
  advance channel plan (channel.supply s + 1) cancelled s (start plan cancelled)

end RecordQuery.Paging
