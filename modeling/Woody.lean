import Woody.Core
import Woody.Chain
import Woody.Helmet
import Woody.Endpoints
import Woody.Timeout
import Woody.Cors.New
import Woody.Cors.AllowOrigin
import Woody.Envvar.New
import Woody.Envvar.Exposure
import Woody.Adaptor.Header
import Woody.Adaptor.Context
import Woody.Adaptor.Handler
import Woody.Adaptor.Middleware
