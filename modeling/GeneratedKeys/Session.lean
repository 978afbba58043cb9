import GeneratedKeys.Source

/-!
# Sessions

A session makes queries that share one support and one source, and asks them in any order. Queries
are numbered in the order in which they are asked for; one that cannot be made takes a number too.
-/
namespace GeneratedKeys

/-- The shared support and host, and the queries by their numbers. A query that could not be made
or has been used up leaves its place empty. -/
structure Session where
  support : Support
  host : Host
  queries : List (Option Query)

namespace Session

def start (support : Support) (source : Source) : Session :=
  ⟨support, Host.ofSource source, []⟩

inductive Step
  | make (sql : Text) (request : Query.Request)
  | generatesKeys (number : Nat)
  | text (number : Nat)
  /-- Uses a query up for its result. -/
  | use (number : Nat)
  /-- Looks at a query without processing it. -/
  | inspect (number : Nat)
  /-- Asks how often the reader and the source have been called. -/
  | calls
  /-- Lets looking up fail, or work again. -/
  | fail (failing : Bool)
  | addTable (t : Table)
deriving DecidableEq, Repr

inductive Answer
  | made (number : Nat)
  | generatesKeys (b : Bool)
  | text (sql : Text)
  | result (r : Query.Result)
  | query (q : Query)
  | calls (reader lookups : Nat)
  | tableCount (n : Nat)
  | done
  | failed (e : Query.Failure)
  | tableRefused
  | noQuery
deriving DecidableEq, Repr

def query? (s : Session) (number : Nat) : Option Query :=
  s.queries[number]?.join

/-- Processes a query where it has not been processed. -/
def processed (s : Session) (q : Query) : (Query × Except Query.Failure Query.Result) × Host :=
  (q.process (Host.backend s.support)).run s.host

/-- Processes the query of a number, keeps `after` of it in its place, and answers with its
result. -/
def ask (s : Session) (number : Nat) (after : Query → Option Query)
    (answer : Query.Result → Answer) : Session × Answer :=
  match s.query? number with
  | none => (s, .noQuery)
  | some q =>
    let p := s.processed q
    ({ s with host := p.2, queries := s.queries.set number (after p.1.1) },
      match p.1.2 with
      | .ok r => answer r
      | .error e => .failed e)

def tableAdded : Source → Answer
  | .catalog c => .tableCount c.tables.length
  | .database _ | .foreign => .done

def step (s : Session) : Step → Session × Answer
  | .make sql request =>
    match Query.make s.support.isLoaded sql request with
    | .ok q => ({ s with queries := s.queries ++ [some q] }, .made s.queries.length)
    | .error e => ({ s with queries := s.queries ++ [none] }, .failed e)
  | .generatesKeys number => s.ask number some fun r => .generatesKeys r.generatesKeys
  | .text number => s.ask number some fun r => .text r.sql
  | .use number => s.ask number (fun _ => none) .result
  | .inspect number =>
    (s, match s.query? number with
      | some q => .query q
      | none => .noQuery)
  | .calls => (s, .calls s.host.readerCalls s.host.lookups)
  | .fail failing => ({ s with host := { s.host with failing := failing } }, .done)
  | .addTable t =>
    match s.host.source.add? t with
    | some source => ({ s with host := { s.host with source := source } }, tableAdded source)
    | none => (s, .tableRefused)

def run (s : Session) : List Step → Session × List Answer
  | [] => (s, [])
  | first :: rest =>
    let one := s.step first
    let others := run one.1 rest
    (others.1, one.2 :: others.2)

end Session
end GeneratedKeys
