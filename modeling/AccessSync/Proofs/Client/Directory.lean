import AccessSync.Client.Basic
import AccessSync.Proofs.RuleSet.Calls
import AccessSync.Proofs.Transport.Serving
/-!
# Directories of a client without credentials

Where such a client finds users, groups and service principals of the account, and what it reads in a
reply.
-/

namespace AccessSync.Sync

/-- Where a client of the account without credentials finds objects. -/
def directoryUrl (e : Endpoint) : Url :=
  ⟨['h', 't', 't', 'p'], some ⟨[], [], .name ['h'], none⟩, false,
    .segments (["api", "2.0", "accounts", "a", "scim", "v2", e.name].map (·.toList)), none, none⟩

theorem directory_reachable {e : Endpoint} (he : e ∈ [Endpoint.users, .groups, .servicePrincipals]) :
    Client.plain.resolver.resolve e .account = .ok (directoryUrl e) ∧
    Transport.Reachable (directoryUrl e) (directoryUrl e) := by
  simp only [List.mem_cons, List.not_mem_nil, or_false] at he
  rcases he with rfl | rfl | rfl <;>
    exact ⟨Client.ok_of_toOption (by decide +kernel), Client.ok_of_toOption (by decide +kernel),
      by decide +kernel, by decide +kernel⟩

theorem tells_text {α : Type} {read : Json → Option α} {text : String} {a : α}
    (h : (Transport.readBody (Utf8.encode text.toList)).bind read = some a) :
    Transport.Tells read (Transport.replyOf text) a :=
  fun now => ⟨_, Transport.decode_replyOf h now⟩

end AccessSync.Sync
