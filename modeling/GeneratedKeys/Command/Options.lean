import GeneratedKeys.Query.Basic
import GeneratedKeys.Text.Decimal

/-!
# Command lines

    [-c PATH | -d URL] [-v] [-s SQL] none|all|indexes N...|names X...|flag N [-s SQL]

Options come in a short and a long form; a value follows its option as the next argument or is
attached to it. An option may be given once before the subcommand and, as far as it is known
there, once after it. A value that is an argument of its own does not start with a hyphen, a lone
hyphen apart, and everything behind `--` after the subcommand is a value.
-/
namespace GeneratedKeys.Command

inductive Setting
  | catalog
  | database
  | sql
deriving DecidableEq, Repr

inductive Subcommand
  | none
  | all
  | indexes
  | names
  | flag
deriving DecidableEq, Repr

def Subcommand.ofName? (name : Text) : Option Subcommand :=
  match String.ofList name with
  | "none" => some .none
  | "all" => some .all
  | "indexes" => some .indexes
  | "names" => some .names
  | "flag" => some .flag
  | _ => Option.none

/-- The request that a subcommand and its values stand for. -/
def Subcommand.request? (c : Subcommand) (values : List Text) : Option Query.Request :=
  match c, values with
  | .none, [] => some (.wish .noKeys)
  | .all, [] => some (.wish .returnKeys)
  | .indexes, _ :: _ => do return .positions (some (← values.mapM Text.toInt32?))
  | .names, _ :: _ => some (.names (some values))
  | .flag, [value] => do return .flag (← Text.toInt32? value)
  | _, _ => Option.none

inductive Place
  | outer
  /-- After the subcommand, with the values read so far; `literal` says that all that follows is a
  value. -/
  | inner (c : Subcommand) (values : List Text) (literal : Bool)
deriving DecidableEq, Repr

/-- A command line as far as it has been read. `awaiting` is an option whose value comes next. -/
structure Reading where
  place : Place
  awaiting : Option Setting
  catalog : Option Text
  database : Option Text
  outerSql : Option Text
  innerSql : Option Text
  verbose : Bool
deriving DecidableEq, Repr

inductive Stop
  | refused
  | version
deriving DecidableEq, Repr

namespace Reading

def start : Reading :=
  ⟨.outer, none, none, none, none, none, false⟩

def isOuter (r : Reading) : Bool :=
  r.place == .outer

/-- Takes the value of an option, which must not have one yet. The path of a catalog is not
empty. -/
def put (r : Reading) (s : Setting) (value : Text) : Except Stop Reading :=
  match s with
  | .catalog =>
    if r.catalog.isSome || value.isEmpty then .error .refused
    else .ok { r with catalog := some value }
  | .database =>
    if r.database.isSome then .error .refused else .ok { r with database := some value }
  | .sql =>
    if r.isOuter then
      if r.outerSql.isSome then .error .refused else .ok { r with outerSql := some value }
    else if r.innerSql.isSome then .error .refused
    else .ok { r with innerSql := some value }

/-- Takes the flag for more messages, which must not have been given. -/
def beVerbose (r : Reading) : Except Stop Reading :=
  if r.verbose then .error .refused else .ok { r with verbose := true }

/-- The option of a long name that takes a value; most are known before the subcommand only. -/
def longSetting? (r : Reading) (name : String) : Option Setting :=
  match name with
  | "sql" => some .sql
  | "catalog" => if r.isOuter then some .catalog else none
  | "database" => if r.isOuter then some .database else none
  | _ => none

def shortSetting? (r : Reading) (c : Char) : Option Setting :=
  match c with
  | 's' => some .sql
  | 'c' => if r.isOuter then some .catalog else none
  | 'd' => if r.isOuter then some .database else none
  | _ => none

/-- Takes a long option, whose value may be attached behind an equals sign. -/
def long (r : Reading) (name : String) (attached : Option Text) : Except Stop Reading :=
  match r.longSetting? name, attached with
  | some s, some value => r.put s value
  | some s, none => .ok { r with awaiting := some s }
  | none, some _ => .error .refused
  | none, none =>
    if !r.isOuter then .error .refused
    else if name = "verbose" then r.beVerbose
    else if name = "version" then .error .version
    else .error .refused

/-- Takes letters behind one hyphen: flags, and perhaps an option to which the rest is attached as
its value, with an equals sign or without. -/
def short (r : Reading) : Text → Except Stop Reading
  | [] => .ok r
  | c :: t =>
    match r.shortSetting? c, t with
    | some s, [] => .ok { r with awaiting := some s }
    | some s, '=' :: value => r.put s value
    | some s, value => r.put s value
    | none, t =>
      if !r.isOuter then .error .refused
      else if c = 'v' then do short (← r.beVerbose) t
      else if c = 'V' then .error .version
      else .error .refused

def word (r : Reading) (arg : Text) : Except Stop Reading :=
  match r.place with
  | .outer =>
    match Subcommand.ofName? arg with
    | some c => .ok { r with place := .inner c [] false }
    | none => .error .refused
  | .inner c values literal => .ok { r with place := .inner c (values ++ [arg]) literal }

/-- Takes the two hyphens behind which everything is a value. -/
def separator (r : Reading) : Except Stop Reading :=
  match r.place with
  | .outer => .error .refused
  | .inner c values _ => .ok { r with place := .inner c values true }

def isLiteral (r : Reading) : Bool :=
  match r.place with
  | .inner _ _ literal => literal
  | .outer => false

def looksLikeOption : Text → Bool
  | '-' :: _ :: _ => true
  | _ => false

def step (r : Reading) (arg : Text) : Except Stop Reading :=
  if r.isLiteral then r.word arg
  else
    match r.awaiting with
    | some s =>
      if looksLikeOption arg then .error .refused else { r with awaiting := none }.put s arg
    | none =>
      match arg with
      | ['-', '-'] => r.separator
      | '-' :: '-' :: option =>
        let name := option.takeWhile (· != '=')
        let attached := (option.dropWhile (· != '=')).tail?
        r.long (String.ofList name) attached
      | '-' :: c :: t => r.short (c :: t)
      | arg => r.word arg

end Reading

/-- The environment variables that stand in for options. -/
structure Environment where
  catalog : Option Text
  database : Option Text
deriving DecidableEq, Repr

inductive Origin
  | nowhere
  | catalog (path : Text)
  | database (url : Text)
deriving DecidableEq, Repr

structure Options where
  source : Origin
  sql : Option Text
  request : Query.Request
deriving DecidableEq, Repr

/-- The place to look columns up, options first and then the environment. There is only one. -/
def sourceOf (r : Reading) (env : Environment) : Except Stop Origin :=
  match r.catalog.or env.catalog, r.database.or env.database with
  | some _, some _ => .error .refused
  | some path, none => if path.isEmpty then .error .refused else .ok (.catalog path)
  | none, some url => .ok (.database url)
  | none, none => .ok .nowhere

/-- What a command line that has been read to its end asks for. The statement after the subcommand
goes before the one in front of it. -/
def Reading.finish (r : Reading) (env : Environment) : Except Stop Options :=
  match r.awaiting, r.place with
  | none, .inner c values _ =>
    match c.request? values with
    | some request => do return ⟨← sourceOf r env, r.innerSql.or r.outerSql, request⟩
    | none => .error .refused
  | _, _ => .error .refused

def Options.read (args : List Text) (env : Environment) : Except Stop Options := do
  (← args.foldlM Reading.step .start).finish env

end GeneratedKeys.Command
