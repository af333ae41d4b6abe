import AppFunctionsSdk.AppSdk.Initialize

/-!
# The clients of `initializeClients`

The last block of a pass of the bootstrap, `initializeClients`, builds the clients of the EdgeX
services the SDK talks to.  Each is made by `urlclient.New` from a service key, a route, the
monitor interval and a URL.  A service's clients are built only when `Clients` has an entry for
the service, and the URL of each is the `Url()` of an entry followed by the client's route.

Nine clients take the URL of their own service's entry.  The two clients of the scheduler
service are guarded by the `Scheduler` entry but take the URL of the `Metadata` entry.  A Go
map gives the zero `ClientInfo` for a missing entry, so without a `Metadata` entry they take the
URL of the zero value, `zeroUrl` below.
-/

namespace AppFunctionsSdk
namespace AppSdk

/-! ### Names, service keys and routes -/

/-- `common.CoreDataClientName`. -/
def coreDataClientName : String := "CoreData"

/-- `common.CoreCommandClientName`. -/
def coreCommandClientName : String := "Command"

/-- `common.NotificationsClientName`. -/
def notificationsClientName : String := "Notifications"

/-- `common.MetadataClientName`. -/
def metadataClientName : String := "Metadata"

/-- `common.SchedulerClientName`. -/
def schedulerClientName : String := "Scheduler"

/-! The service keys and routes below are those of the `clients` package of go-mod-core-contracts
that `initializeClients` passes. -/

def coreDataServiceKey : String := "edgex-core-data"
def coreCommandServiceKey : String := "edgex-core-command"
def supportNotificationsServiceKey : String := "edgex-support-notifications"
def coreMetaDataServiceKey : String := "edgex-core-metadata"
def supportSchedulerServiceKey : String := "edgex-support-scheduler"

def apiEventRoute : String := "/api/v1/event"
def apiReadingRoute : String := "/api/v1/reading"
def apiValueDescriptorRoute : String := "/api/v1/valuedescriptor"
def apiDeviceRoute : String := "/api/v1/device"
def apiNotificationRoute : String := "/api/v1/notification"
def apiAddressableRoute : String := "/api/v1/addressable"
def apiProvisionWatcherRoute : String := "/api/v1/provisionwatcher"
def apiIntervalRoute : String := "/api/v1/interval"
def apiIntervalActionRoute : String := "/api/v1/intervalaction"

/-! ### `initializeClients` -/

/-- The arguments of `urlclient.New` that describe a client. -/
structure UrlClient where
  serviceKey : String
  path : String
  /-- `interval`, the monitor interval in milliseconds. -/
  interval : Int
  url : String
deriving DecidableEq

/-- The fields of `sdk.edgexClients` that `initializeClients` sets; `none` is `nil`. -/
structure EdgeXClients where
  eventClient : Option UrlClient
  readingClient : Option UrlClient
  valueDescriptorClient : Option UrlClient
  commandClient : Option UrlClient
  notificationsClient : Option UrlClient
  addressableClient : Option UrlClient
  deviceClient : Option UrlClient
  provisionWatcherClient : Option UrlClient
  intervalClient : Option UrlClient
  intervalActionClient : Option UrlClient
deriving DecidableEq

section Clients

variable (config : BootConfiguration) (zeroUrl : String) (interval : Int)

/-- `sdk.config.Clients[name].Url()`: the URL of the entry, or the `Url()` of the zero
`ClientInfo` that the lookup of a missing entry gives. -/
def clientUrl (name : String) : String := (config.clients name).getD zeroUrl

/-- One client of `initializeClients`: built when `Clients` has the entry `guard`, with the URL of
the entry `source` followed by the route. -/
def newUrlClient (guard source serviceKey route : String) : Option UrlClient :=
  if (config.clients guard).isSome then
    some ⟨serviceKey, route, interval, clientUrl config zeroUrl source ++ route⟩
  else none

/-- `initializeClients`, with `interval` the parsed `Service.ClientMonitor` in milliseconds. -/
def initializeClients : EdgeXClients where
  eventClient := newUrlClient config zeroUrl interval
    coreDataClientName coreDataClientName coreDataServiceKey apiEventRoute
  readingClient := newUrlClient config zeroUrl interval
    coreDataClientName coreDataClientName coreDataServiceKey apiReadingRoute
  valueDescriptorClient := newUrlClient config zeroUrl interval
    coreDataClientName coreDataClientName coreDataServiceKey apiValueDescriptorRoute
  commandClient := newUrlClient config zeroUrl interval
    coreCommandClientName coreCommandClientName coreCommandServiceKey apiDeviceRoute
  notificationsClient := newUrlClient config zeroUrl interval
    notificationsClientName notificationsClientName supportNotificationsServiceKey
    apiNotificationRoute
  addressableClient := newUrlClient config zeroUrl interval
    metadataClientName metadataClientName coreMetaDataServiceKey apiAddressableRoute
  deviceClient := newUrlClient config zeroUrl interval
    metadataClientName metadataClientName coreMetaDataServiceKey apiDeviceRoute
  provisionWatcherClient := newUrlClient config zeroUrl interval
    metadataClientName metadataClientName coreMetaDataServiceKey apiProvisionWatcherRoute
  intervalClient := newUrlClient config zeroUrl interval
    schedulerClientName metadataClientName supportSchedulerServiceKey apiIntervalRoute
  intervalActionClient := newUrlClient config zeroUrl interval
    schedulerClientName metadataClientName supportSchedulerServiceKey apiIntervalActionRoute

end Clients

end AppSdk
end AppFunctionsSdk
