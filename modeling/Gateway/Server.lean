import Gateway.Config
import Gateway.Delivery
import Gateway.Middleware
import Gateway.NotFound
import Gateway.Upgrade

/- The server: configured headers around the proxy, which falls through to a handler of
   last resort. Requests for another protocol take the same way. -/
namespace Gateway

structure Server where
  rules : RuleSet
  /-- Headers that are added to every response. -/
  headers : Fields String
deriving Repr, DecidableEq

namespace Server

/-- A server with these headers and rules. -/
def create (headers : Fields String) (entries : List RuleEntry) : Except RewriteError Server × Log :=
  let (rules, log) := RuleSet.ofEntries entries
  (rules.map fun rules => ⟨rules, headers⟩, log)

/-- The chain of the server's handlers. Without a fallback the rest of the requests gets
    the not-found page. -/
def handler (s : Server) (forward : Forwarder) (fallback : Option Handler) : Handler :=
  Middleware.compose (m := Id)
    [Middleware.addHeaders s.headers, Middleware.proxy s.rules forward]
    (fallback.getD (NotFound.handler s.rules))

/-- Answers an ordinary request. -/
def answer (s : Server) (forward : Forwarder) (fallback : Option Handler) (i : Incoming)
    (inbound : Stream) (client : Client) : Outcome Thrown Unit × Delivery :=
  Deliver.answer (s.handler forward fallback) i (.begin (.begin inbound) client)

/-- Answers a request for another protocol. -/
def answerUpgrade (s : Server) (forward : Forwarder) (fallback : Option Handler) (i : Incoming)
    (inbound : Stream) : Upgrade.Result :=
  Upgrade.answer (s.handler forward fallback) i (Exchange.begin inbound)

end Server

end Gateway
