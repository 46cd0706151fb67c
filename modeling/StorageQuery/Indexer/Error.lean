import StorageQuery.Storage.Error
import StorageQuery.Url.Host
set_option autoImplicit false

namespace StorageQuery

inductive IndexerError where
  | noResponse (timedOut : Bool) (reason : String)
  | unreadableUrl (fault : UrlFault)
  | unusableUrl (reason : String)
  | status (code : Nat) (url : String)
  | json (fault : Json.Fault)
  | configuration (reason : String)

namespace IndexerError

def message : IndexerError → String
  | noResponse _ reason => s!"HTTP error: {reason}"
  | unreadableUrl fault => s!"URL parse error: {fault.message}"
  | unusableUrl reason => s!"Invalid URL: {reason}"
  | status code url => s!"Unexpected status {code} from {url}"
  | json fault => s!"JSON error: {fault.message}"
  | configuration reason => s!"Invalid configuration: {reason}"

def toStorageError : IndexerError → StorageError
  | noResponse true reason => .transport s!"request timed out: {reason}"
  | noResponse false reason => .transport reason
  | status code url => .status code url
  | json fault => .undecodable fault.message
  | configuration reason => .configuration reason
  | unreadableUrl fault => .configuration (unreadableUrl fault).message
  | unusableUrl reason => .configuration (unusableUrl reason).message

end IndexerError

end StorageQuery
