import Coredis.Python.Value
import Coredis.Python.Float
import Coredis.Python.Numeral
import Coredis.Python.Builtins
import Coredis.Python.Datetime
import Coredis.Utils
import Coredis.Response.Callbacks
import Coredis.Response.Status
import Coredis.Response.Primitives
import Coredis.Response.Optional
import Coredis.Response.Sets
import Coredis.Response.Dicts
import Coredis.Response.Timestamps
import Coredis.Response.Versions
import Coredis.Tokens
