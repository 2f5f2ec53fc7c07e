import AccessSync.Principal.Name
import AccessSync.Rule.Basic
import AccessSync.Rule.RoleMatch
/-!
# Editing rules

`grant` gives a role to a principal and `revoke` takes it away, both in a list of rules. The result
says whether anything changed; if not, the list is the same.
-/

namespace AccessSync

namespace Rule

/-- The entry names that principal. -/
def names (p : PrincipalName) (entry : String) : Bool :=
  match PrincipalName.parse entry with
  | .ok q => q = p
  | .error _ => false

/-- An entry of the rule names that principal. -/
def holds (p : PrincipalName) (r : Rule) : Bool := r.principals.any (names p)

/-- The rule with the principal as its last entry. -/
def add (p : PrincipalName) (r : Rule) : Rule := { r with principals := r.principals ++ [p.text] }

/-- The rule without the entries that name the principal. -/
def drop (p : PrincipalName) (r : Rule) : Rule :=
  { r with principals := r.principals.filter (!names p ·) }

/-- Adds the principal to every rule that matches, or a rule of `newRole` if none does, unless one
that matches holds it already. -/
def grant (m : RoleMatch) (newRole : String) (p : PrincipalName) (rules : List Rule) :
    Bool × List Rule :=
  if rules.any fun r => m.accepts r.role && r.holds p then (false, rules)
  else if rules.any fun r => m.accepts r.role then
    (true, rules.map fun r => if m.accepts r.role then r.add p else r)
  else (true, rules ++ [⟨[p.text], newRole⟩])

/-- Takes the principal out of the first rule that matches and holds it. A rule that is left
without principals goes away. -/
def revoke (m : RoleMatch) (p : PrincipalName) : List Rule → Bool × List Rule
  | [] => (false, [])
  | r :: rules =>
    if m.accepts r.role && r.holds p then
      (true, if (r.drop p).principals = [] then rules else r.drop p :: rules)
    else
      let (changed, rules) := revoke m p rules
      (changed, r :: rules)

end Rule

end AccessSync
