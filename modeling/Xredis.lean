import Xredis.Go.Strconv
import Xredis.Go.Reflect
import Xredis.Go.Env
import Xredis.Go.Strings
import Xredis.Server.Store
import Xredis.Server.Commands
import Xredis.Server.Batch
import Xredis.Server.Invariant
import Xredis.Server.Cluster
import Xredis.Server.Frame
import Xredis.Server.Local
import Xredis.Server.Retry
import Xredis.Rdb.Proto
import Xredis.Rdb.Conn
import Xredis.Rdb.Hscan
import Xredis.Rdb.Scan
import Xredis.Client.Hash
import Xredis.Client.Keys
import Xredis.Client.Errors
import Xredis.Client.Object
import Xredis.Client.Writes
import Xredis.Client.Encoding
import Xredis.Client.Read
import Xredis.Client.Get
import Xredis.Client.Session
import Xredis.Client.Frame
import Xredis.Client.Alike
import Xredis.Client.Cluster
import Xredis.Client.Interleave
import Xredis.Client.Retry
import Xredis.Client.Counter
import Xredis.Client.Close
import Xredis.Client.Options
import Xredis.Client.Construct
