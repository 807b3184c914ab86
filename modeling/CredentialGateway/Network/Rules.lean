import CredentialGateway.Network.Basic

/-! Networks given by rules: which hosts there are, and what they answer in turn. -/

namespace CredentialGateway

structure Rule where
  /-- The host, with its port unless that is the default. -/
  host : List Char
  path : Option (List Char)
  /-- The replies in turn; the last one is repeated. -/
  replies : List Reply

namespace Rule

def hits (r : Rule) (s : Sent) : Bool :=
  r.host == s.host &&
    match r.path with
    | none => true
    | some p => p == s.target.takeWhile (· ≠ '?')

def hostName (r : Rule) : List Char := r.host.takeWhile (· ≠ ':')

end Rule

def Reply.plain (status : Nat) (body : String) : Reply := ⟨status, .empty, Bytes.ofText body, 0, false, none⟩

namespace Network

def ruleOf (rules : List Rule) (s : Sent) : Option Nat := rules.findIdx? fun r => r.hits s

def replyOf (rules : List Rule) (before : List Sent) (s : Sent) : Reply :=
  match ruleOf rules s with
  | none => .plain 404 "no rule"
  | some i =>
    let turn := (before.filter fun t => ruleOf rules t == some i).length
    let replies := ((rules[i]?).map Rule.replies).getD []
    (replies[min turn (replies.length - 1)]?).getD (.plain 404 "no rule")

/-- Only hosts of rules can be reached, by name or by IPv4 address, and none of them with encryption. -/
def connectsTo (rules : List Rule) (u : Url) : Bool :=
  u.scheme == "http".toList &&
    match u.host? with
    | some (.domain name) => rules.any fun r => r.hostName == name
    | some (.ipv4 n) => rules.any fun r => r.hostName == Url.Address.ipv4Chars n
    | _ => false

def ofRules (rules : List Rule) : Network := ⟨connectsTo rules, replyOf rules⟩

end Network
end CredentialGateway
