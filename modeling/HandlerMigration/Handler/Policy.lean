/-!
# Policies

How a function authenticates its callers, and the three sets of names that decide it. A valid roster
lists no name in two sets.
-/

namespace HandlerMigration

/-- What a handler is migrated to. All three share the CORS helpers. -/
inductive Policy where
  /-- Any authenticated caller. -/
  | plainAuth
  /-- The caller named in the body of the request. -/
  | userScopedAuth
  /-- Authentication is left alone. -/
  | corsOnly
deriving DecidableEq, Repr

namespace Policy

/-- The authentication helper. -/
def helper? : Policy → Option String
  | plainAuth => some "validateAuth"
  | userScopedAuth => some "validateAuthWithUserId"
  | corsOnly => none

/-- The call of the authentication helper. -/
def call? : Policy → Option String
  | plainAuth => some "validateAuth(req)"
  | userScopedAuth => some "validateAuthWithUserId(req, user_id)"
  | corsOnly => none

def requiresAuth (p : Policy) : Bool := p != corsOnly

def label : Policy → String
  | plainAuth => "plain auth"
  | userScopedAuth => "user-scoped auth"
  | corsOnly => "CORS only"

end Policy

/-- The functions that are not plainly authenticated, by name. -/
structure Roster where
  /-- Functions that are neither read nor written. -/
  excluded : List String
  userScoped : List String
  corsOnly : List String
deriving DecidableEq, Repr

/-- A name that two sets list. -/
structure Overlap where
  name : String
  first : String
  second : String
deriving DecidableEq, Repr

def Overlap.message (o : Overlap) : String :=
  s!"Function '{o.name}' is listed in both `{o.first}` and `{o.second}`"

namespace Roster

/-- The built-in names. -/
def standard : Roster where
  excluded := ["_shared", "generate-email-pitch", "tests", "competitor-intelligence-cron",
    "seed-projects", "seed-users", "deploy-to-vercel"]
  userScoped := ["ai-career-coach", "ai-lead-finder", "ai-task-executor", "ai-task-router",
    "auto-sync-finances", "enrich-project-intelligence", "generate-actionable-insights",
    "generate-business-ideas", "generate-complete-business", "generate-learning-path",
    "generate-playbook", "generate-predictions", "generate-role-questions-v2", "generate-tasks-v2",
    "prepare-one-on-one", "suggest-optimal-schedule", "sync-stripe"]
  corsOnly := ["export-excel"]

def isExcluded (r : Roster) (name : String) : Bool := r.excluded.contains name

/-- The policy of a function. It is defined for excluded functions too. -/
def resolve (r : Roster) (name : String) : Policy :=
  if r.userScoped.contains name then .userScopedAuth
  else if r.corsOnly.contains name then .corsOnly
  else .plainAuth

/-- The first name of `names` that `others` list too. -/
def shared (first : String) (names : List String) (second : String) (others : List String) :
    Option Overlap :=
  (names.find? fun name => others.contains name).map fun name => ⟨name, first, second⟩

/-- The first overlap of two sets, in the order in which the sets are declared. -/
def overlap? (r : Roster) : Option Overlap :=
  shared "excluded" r.excluded "user_scoped" r.userScoped <|>
  shared "excluded" r.excluded "cors_only" r.corsOnly <|>
  shared "user_scoped" r.userScoped "cors_only" r.corsOnly

end Roster

end HandlerMigration
