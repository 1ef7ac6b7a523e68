import DpiObject.Basic
import DpiObject.HandleList
import DpiObject.Lifecycle
import DpiObject.Close
import DpiObject.Free
import DpiObject.Allocate
import DpiObject.RefCount
import DpiObject.Threaded
import DpiObject.Quiescence
import DpiObject.Convert
import DpiObject.Access
import DpiObject.Api
import DpiObject.Memory
import DpiObject.Leak
import DpiObject.Registry
import DpiObject.Native
import DpiObject.Edges
import DpiObject.Fields
import DpiObject.Slots
