import Gateway.Exchange
import Gateway.Rule
import Gateway.Text.Pieces

/- The page for requests that nothing else answers: it names the path and lists the
   rules. -/
namespace Gateway

namespace Html

/-- What stands for a character that markup is made of, in the order of replacement. The
    ampersand comes first, since what stands for the others begins with one. -/
def entities : List (Char × String) :=
  [('&', "&amp;"), ('<', "&lt;"), ('>', "&gt;"), ('"', "&quot;"), ('\'', "&#39;")]

/-- The text as it stands in a page. -/
def escape (s : String) : String :=
  String.ofList (entities.foldl
    (fun text (c, entity) => Text.replaceAll [c] entity.toList text) s.toList)

end Html

namespace NotFound

def openItem : String := "<li><code>"

def closeItem : String := "</code></li>"

/-- The list of the rules up to its first item. -/
def openList : String := "\n            <h2>Proxy rules:</h2>\n            <ul>\n              "

/-- The list of the rules from behind its last item. -/
def closeList : String := "\n            </ul>\n          "

/-- What stands for a list without items. -/
def noList : String := "<p><em>No proxy rules configured.</em></p>"

/-- The list of the rules, or what stands for it. -/
def rulesPart (rules : RuleSet) : String :=
  if rules.isEmpty then noList
  else
    openList ++ String.join (rules.map fun r => openItem ++ Html.escape r.describe ++ closeItem) ++
      closeList

/-- The page up to the path. -/
def head : String :=
  "\n      <html>\n        <head><title>devroute - Not Found</title></head>\n" ++
    "        <body style=\"font-family: system-ui; padding: 40px; max-width: 600px; margin: 0 auto;\">\n" ++
    "          <h1>Not Found</h1>\n          <p>Nothing is served at "

def openPath : String := "<strong>"

def closePath : String := "</strong>"

/-- The page between the path and the rules. -/
def middle : String := "</p>\n          "

/-- The page behind the rules. -/
def tail : String := "\n        </body>\n      </html>\n    "

/-- The page for a path. -/
def page (rules : RuleSet) (path : String) : String :=
  head ++ openPath ++ Html.escape path ++ closePath ++ middle ++ rulesPart rules ++ tail

def response (rules : RuleSet) (path : String) : Response :=
  ⟨404, [("content-type", .text "text/html")], .text (page rules path)⟩

/-- Answers every request with the page. -/
def handler (rules : RuleSet) : Handler := fun request => pure (response rules request.url.pathname)

end NotFound

end Gateway
