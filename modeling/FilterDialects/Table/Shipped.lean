import FilterDialects.Table.Basic

/-!
# The shipped table

The compatibility table that an engine uses when it is given none.
-/

namespace FilterDialects.Table

/-- A record from its AdGuard name, its uBlock Origin names and its Adblock Plus name. -/
def record (adg : String) (ubo abp : Option String) : Record :=
  ⟨adg.toList, ubo.map String.toList, abp.map String.toList⟩

def shippedScriptlets : List Record :=
  [
    record "abort-current-inline-script"
      (some "abort-current-inline-script.js (acis.js), abort-current-script.js (acs.js)")
      (some "abort-current-inline-script"),
    record "abort-on-property-read"
      (some "abort-on-property-read.js (aopr.js)") (some "abort-on-property-read"),
    record "abort-on-property-write"
      (some "abort-on-property-write.js (aopw.js)") (some "abort-on-property-write"),
    record "abort-on-stack-trace"
      (some "abort-on-stack-trace.js (aost.js)") (some "abort-on-stack-trace"),
    record "adjust-setInterval" (some "nano-setInterval-booster.js (nano-sib.js)") none,
    record "adjust-setTimeout" (some "nano-setTimeout-booster.js (nano-stb.js)") none,
    record "close-window" (some "window-close-if.js (close-window.js)") none,
    record "debug-current-inline-script" none none,
    record "debug-on-property-read" none none,
    record "debug-on-property-write" none none,
    record "dir-string" none (some "dir-string"),
    record "disable-newtab-links" (some "disable-newtab-links.js") none,
    record "hide-in-shadow-dom" none none,
    record "json-prune" (some "json-prune.js") (some "json-prune"),
    record "log" none (some "log"),
    record "log-addEventListener" (some "addEventListener-logger.js (aell.js)") none,
    record "log-eval" none none,
    record "log-on-stack-trace" none none,
    record "m3u-prune" (some "m3u-prune.js") none,
    record "no-floc" (some "no-floc.js") none,
    record "no-topics" none none,
    record "noeval" (some "noeval.js (silent-noeval.js, noeval-silent.js)") none,
    record "nowebrtc" (some "nowebrtc.js") none,
    record "prevent-addEventListener"
      (some "addEventListener-defuser.js (aeld.js)") (some "prevent-listener"),
    record "prevent-adfly" (some "adfly-defuser.js") none,
    record "prevent-bab" (some "nobab.js (bab-defuser.js)") none,
    record "prevent-element-src-loading" none none,
    record "prevent-eval-if" (some "noeval-if.js (prevent-eval-if.js)") none,
    record "prevent-fab-3.2.0" (some "nofab.js (fuckadblock.js-3.2.0)") none,
    record "prevent-fetch" (some "no-fetch-if.js (prevent-fetch.js)") none,
    record "prevent-popads-net" (some "popads.net.js") none,
    record "prevent-refresh" (some "refresh-defuser.js (prevent-refresh.js)") none,
    record "prevent-requestAnimationFrame"
      (some "no-requestAnimationFrame-if.js (norafif.js)") none,
    record "prevent-setInterval" (some "no-setInterval-if.js (nosiif.js)") none,
    record "prevent-setTimeout" (some "no-setTimeout-if.js (nostif.js)") none,
    record "prevent-window-open" (some "window.open-defuser.js (nowoif.js)") none,
    record "prevent-xhr" (some "no-xhr-if.js (prevent-xhr.js)") none,
    record "remove-attr" (some "remove-attr.js (ra.js)") none,
    record "remove-class" (some "remove-class.js (rc.js)") none,
    record "remove-cookie" (some "cookie-remover.js") (some "cookie-remover"),
    record "remove-in-shadow-dom" none none,
    record "set-attr" (some "set-attr.js") none,
    record "set-constant" (some "set-constant.js (set.js)") none,
    record "set-cookie" (some "set-cookie.js") none,
    record "set-cookie-reload" none none,
    record "set-local-storage-item" (some "set-local-storage-item.js") none,
    record "set-popads-dummy" (some "popads-dummy.js") none,
    record "set-session-storage-item" (some "set-session-storage-item.js") none,
    record "xml-prune" (some "xml-prune.js") none
  ]

def shippedRedirects : List Record :=
  [
    record "1x1-transparent.gif"
      (some "1x1.gif (1x1-transparent.gif)") (some "1x1-transparent-gif"),
    record "2x2-transparent.png"
      (some "2x2.png (2x2-transparent.png)") (some "2x2-transparent-png"),
    record "3x2-transparent.png"
      (some "3x2.png (3x2-transparent.png)") (some "3x2-transparent-png"),
    record "32x32-transparent.png"
      (some "32x32.png (32x32-transparent.png)") (some "32x32-transparent-png"),
    record "amazon-apstag" (some "amazon_apstag.js") none,
    record "ampproject-v0" (some "ampproject_v0.js") none,
    record "ati-smarttag" none none,
    record "click2load.html" (some "click2load.html") none,
    record "didomi-loader" none none,
    record "fingerprintjs2" (some "fingerprint2.js") none,
    record "fingerprintjs3" (some "fingerprint3.js") none,
    record "gemius" none none,
    record "google-analytics-ga" (some "google-analytics_ga.js") none,
    record "google-analytics"
      (some "google-analytics_analytics.js (google-analytics_ga.js)") none,
    record "google-ima3" (some "google-ima.js") none,
    record "googlesyndication-adsbygoogle" (some "googlesyndication_adsbygoogle.js") none,
    record "googletagmanager-gtm" (some "googletagmanager_gtm.js") none,
    record "googletagservices-gpt" (some "googletagservices_gpt.js") none,
    record "matomo" none none,
    record "metrika-yandex-tag" none none,
    record "metrika-yandex-watch" none none,
    record "naver-wcslog" none none,
    record "noeval" (some "noeval-silent.js") none,
    record "noopcss" (some "noop.css") (some "blank-css"),
    record "noopframe" (some "noop.html (noopframe)") (some "blank-html"),
    record "noopjs" (some "noop.js (noopjs)") (some "blank-js"),
    record "noopjson" (some "noop.json") none,
    record "noopmp3-0.1s" (some "noop-0.1s.mp3 (noopmp3-0.1s)") (some "blank-mp3"),
    record "noopmp4-1s" (some "noop-1s.mp4 (noopmp4-1s)") (some "blank-mp4"),
    record "nooptext" (some "noop.txt (nooptext)") (some "blank-text"),
    record "noopvast-2.0" none none,
    record "noopvast-3.0" none none,
    record "noopvast-4.0" none none,
    record "noopvmap-1.0" (some "noop-vmap1.0.xml") none,
    record "pardot-1.0" none none,
    record "prebid" none none,
    record "prebid-ads" (some "prebid-ads.js") none,
    record "prevent-bab" (some "nobab.js") none,
    record "prevent-bab2" (some "nobab2.js") none,
    record "prevent-fab-3.2.0" (some "nofab.js") none,
    record "prevent-popads-net" (some "popads.js") none,
    record "scorecardresearch-beacon" (some "scorecardresearch_beacon.js") none,
    record "set-popads-dummy" (some "popads-dummy.js") none
  ]

def shipped : Table :=
  ⟨shippedScriptlets, shippedRedirects⟩

end FilterDialects.Table
