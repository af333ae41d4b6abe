import AppFunctionsSdk.Util.Strings
import AppFunctionsSdk.Util.CommaList
import AppFunctionsSdk.Util.GoMap
import AppFunctionsSdk.Store.Uuid
import AppFunctionsSdk.Store.StoredObject
import AppFunctionsSdk.Security.InsecureSecrets
import AppFunctionsSdk.Security.SecretProvider
import AppFunctionsSdk.Security.CacheRace
import AppFunctionsSdk.AppSdk.Pipeline
import AppFunctionsSdk.AppSdk.Lifecycle
import AppFunctionsSdk.AppSdk.CommandLine
import AppFunctionsSdk.AppSdk.Initialize
import AppFunctionsSdk.AppSdk.Configuration
import AppFunctionsSdk.AppSdk.Bootstrap
import AppFunctionsSdk.AppSdk.Startup
import AppFunctionsSdk.AppSdk.Clients
import AppFunctionsSdk.AppContext.Context
import AppFunctionsSdk.Transforms.AppFunctions
