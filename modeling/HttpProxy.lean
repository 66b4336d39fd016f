import HttpProxy.Text.Str
import HttpProxy.Text.Utf8
import HttpProxy.Text.Base64
import HttpProxy.Http.Header
import HttpProxy.Http.Uri
import HttpProxy.Http.Message
import HttpProxy.Net.IpNetwork
import HttpProxy.Io.Copy
import HttpProxy.Config
import HttpProxy.Proxy.HostPort
import HttpProxy.Proxy.Rewrite
import HttpProxy.Proxy.Route
import HttpProxy.Proxy.Handle
import HttpProxy.Proxy.Tunnel
