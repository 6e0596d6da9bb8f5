import SinkKeeper.Text.Blank
import SinkKeeper.Text.Case
import SinkKeeper.Text.Search

/-!
# Bearer tokens

A request shows that it may be served by a header with the word "bearer", a space and the token that is
configured. Without a token that is not empty, nobody is served.
-/

namespace SinkKeeper

def bearerWord : String := "bearer "

/-- The token that a header carries, if it is of the bearer kind. -/
def bearerToken? (header : String) : Option String :=
  let trimmed := Text.strip header
  if Text.startsWith (Text.lower trimmed) bearerWord then
    some (Text.strip (String.ofList (trimmed.toList.drop bearerWord.length)))
  else none

def tokenMatches (header token : Option String) : Bool :=
  match header, token with
  | some h, some t => t != "" && bearerToken? h == some t
  | _, _ => false

end SinkKeeper
