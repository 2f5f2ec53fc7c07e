import AccessSync.Text.Split
/-!
# Kinds of principals

A principal is someone that rights are granted to: a user, a group or a service principal. The kind
is written in two ways, as `word` among rules and as `memberWord` among the members of a group; both
are read without regard to case.
-/

namespace AccessSync

inductive PrincipalKind where
  | user
  | group
  | servicePrincipal
  deriving DecidableEq, Repr

namespace PrincipalKind

/-- The kind as it is written in rules and in names of resources. -/
def word : PrincipalKind → String
  | .user => "users"
  | .group => "groups"
  | .servicePrincipal => "servicePrincipals"

/-- The kind as it is written in the members of a group. -/
def memberWord : PrincipalKind → String
  | .user => "Users"
  | .group => "Groups"
  | .servicePrincipal => "ServicePrincipals"

def all : List PrincipalKind := [.user, .group, .servicePrincipal]

/-- The text in lower case, as far as it is ASCII. -/
def lower (text : String) : List Char := text.toList.map Text.lowerAscii

/-- The kind that a word in any case stands for. -/
def ofWord? (text : String) : Option PrincipalKind :=
  all.find? fun k => lower k.word = lower text

end PrincipalKind

end AccessSync
