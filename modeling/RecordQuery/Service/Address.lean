import RecordQuery.Http.Message
import RecordQuery.Service.Settings
import RecordQuery.Url.Parser

/-!
# Addresses

The URL a request goes to: its path is read relative to the root of the service, unless it is a
complete link, and its query options are encoded so that they can be told apart again.
-/
namespace RecordQuery.Service

/-- The root of a service. It ends in a slash, so that its last segment is kept when a path is
read relative to it. -/
def root? (s : Settings) : Option Url :=
  Url.parse? (if s.baseUrl.endsWith "/" then s.baseUrl else s.baseUrl ++ "/")

def invalidRoot (s : Settings) : String := "Invalid base URL: " ++ s.baseUrl

/-- Whether a path is a complete link. -/
def isComplete (path : String) : Bool := path.startsWith "http://" || path.startsWith "https://"

/-- Escapes what would split a query option or be read as something else. -/
def escapeOptionChar (c : Char) : List Char :=
  if c = '%' then "%25".toList
  else if c = '&' then "%26".toList
  else if c = '+' then "%2B".toList
  else if c = '#' then "%23".toList
  else if c = '=' then "%3D".toList
  else [c]

def escapeOption (text : String) : List Char := text.toList.flatMap escapeOptionChar

def optionText (o : String × String) : List Char := escapeOption o.1 ++ '=' :: escapeOption o.2

def addOptions (options : Pairs) (u : Url) : Url :=
  if options.isEmpty then u
  else
    let before := match u.query with
      | none | some [] => []
      | some q => [q]
    u.withQuery ((before ++ options.map optionText).intersperse ['&']).flatten

def resolve? (root : Url) (r : Request) : Option Url :=
  (if isComplete r.path then Url.parse? r.path else root.join? r.path).map (addOptions r.query)

def unresolved (r : Request) : Failure := .transport 0 ("invalid request path " ++ r.path)

end RecordQuery.Service
