import FilteringProxy.Http.Message
import FilteringProxy.Url.Page

/-! # Where a request comes from

The page that a request belongs to, as far as its headers tell.
-/

namespace FilteringProxy.Http.Request

/-- The first value of a header, if it can be read. -/
def headerText? (r : Request) (name : Text) : Option Text :=
  (r.headers.first? name).bind readable?

/-- The host of the page that sent the request, in lower case. -/
def pageHost? (r : Request) : Option Text := (r.headerText? "referer").bind Url.pageHost?

end FilteringProxy.Http.Request

namespace FilteringProxy

/-- The site of a host: its registrable domain, which is looked up, or the host itself if it is an
address or has no such domain. Full stops at the end do not count. -/
def siteBy (registrable? : Text → Option Text) (host : Text) : Text :=
  let host := Text.dropEnd (· == '.') host
  if Url.isAddress (Text.dropEnd (· == ']') (host.dropWhile (· == '['))) then host
  else (registrable? host).getD host

end FilteringProxy
