import SwaggerPress.Json.Basic

/-!
    Text that a reader of the document sees. It is either there already or *lazy*: a message id and a
    resolver that is asked for the text every time the text is needed. Whatever looks at a wording
    asks once; comparing two wordings asks each of them once; copying asks nothing.

    The resolver may have effects of its own, those of a monad `m`. The wordings of a document have
    none (`m` is `Id`), so there a lazy wording and the text it resolves to cannot be told apart.

    A *catalog* maps message ids to texts; an id it does not list resolves to itself. -/

namespace SwaggerPress

/-- Text, or the means to get it. -/
inductive Wording (m : Type → Type) where
  | plain (text : String)
  | lazy (id : String) (resolver : String → m String)

namespace Wording

instance {m : Type → Type} : Inhabited (Wording m) := ⟨.plain ""⟩

/-- The text; a lazy wording asks its resolver. -/
def resolve {m : Type → Type} [Monad m] : Wording m → m String
  | .plain text => pure text
  | .lazy id resolver => resolver id

/-- Whether two wordings have the same text; both are asked. -/
def same {m : Type → Type} [Monad m] (v w : Wording m) : m Bool := do
  let a ← v.resolve
  let b ← w.resolve
  return a == b

/-- The wording as data. -/
def encode {m : Type → Type} [Monad m] (w : Wording m) : m Json := do return .str (← w.resolve)

/-- The text of a wording without effects. -/
def text (w : Wording Id) : String := w.resolve

end Wording

/-- Texts by message id. -/
structure Catalog where
  messages : SortedMap String
  deriving DecidableEq, Inhabited

namespace Catalog

/-- The text of a message id, the id itself if it is not listed. -/
def translate (c : Catalog) (id : String) : String := (c.messages.get? id).getD id

/-- The wording that looks its id up whenever the text is needed. -/
def lazily (c : Catalog) (id : String) : Wording Id := .lazy id c.translate

end Catalog

end SwaggerPress
