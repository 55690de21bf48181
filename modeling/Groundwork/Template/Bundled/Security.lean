import Groundwork.Template.Basic

/-!
# The security classes

Token-based authentication: configuration, token handling, the principal, and the controller that
hands out tokens.
-/

namespace Groundwork.Template.Bundled

/-- The controller that hands out tokens. -/
def authController : Template :=
  .text "package " <| .put "controller_package" <| .text ";\n" <|
  .text "\n" <|
  .branch (.differ (.name "controller_package") (.name "package_name"))
    (.text "import " <| .put "package_name" <| .text ".JwtRequest;\n" <|
     .text "import " <| .put "package_name" <| .text ".JwtResponse;\n" <|
     .text "import " <| .put "package_name" <| .text ".JwtUtils;\n" <|
     .text "import " <| .put "package_name" <| .text ".UserPrincipal;\n" <|
     .done)
    .done <|
  .text "import jakarta.validation.Valid;\n" <|
  .text "import org.springframework.http.ResponseEntity;\n" <|
  .text "import org.springframework.security.authentication.AuthenticationManager;\n" <|
  .text "import org.springframework.security.authentication.UsernamePasswordAuthenticationToken;\n" <|
  .text "import org.springframework.security.core.Authentication;\n" <|
  .text "import org.springframework.security.core.context.SecurityContextHolder;\n" <|
  .text "import org.springframework.web.bind.annotation.PostMapping;\n" <|
  .text "import org.springframework.web.bind.annotation.RequestBody;\n" <|
  .text "import org.springframework.web.bind.annotation.RequestMapping;\n" <|
  .text "import org.springframework.web.bind.annotation.RestController;\n" <|
  .text "\n" <|
  .text "/**\n" <|
  .text " * Token issuing endpoint.\n" <|
  .text " */\n" <|
  .text "@RestController\n" <|
  .text "@RequestMapping(\"/api/auth\")\n" <|
  .text "public class AuthController \x7b\n" <|
  .text "\n" <|
  .text "    private final AuthenticationManager authenticationManager;\n" <|
  .text "    private final JwtUtils jwtUtils;\n" <|
  .text "\n" <|
  .text "    public AuthController(AuthenticationManager authenticationManager, JwtUtils jwtUtils) \x7b\n" <|
  .text "        this.authenticationManager = authenticationManager;\n" <|
  .text "        this.jwtUtils = jwtUtils;\n" <|
  .text "    \x7d\n" <|
  .text "\n" <|
  .text "    @PostMapping(\"/signin\")\n" <|
  .text "    public ResponseEntity<JwtResponse> authenticateUser(@Valid @RequestBody JwtRequest loginRequest) \x7b\n" <|
  .text "        Authentication authentication = authenticationManager.authenticate(\n" <|
  .text "                new UsernamePasswordAuthenticationToken(loginRequest.getUsername(), loginRequest.getPassword()));\n" <|
  .text "\n" <|
  .text "        SecurityContextHolder.getContext().setAuthentication(authentication);\n" <|
  .text "        String jwt = jwtUtils.generateJwtToken(authentication);\n" <|
  .text "\n" <|
  .text "        UserPrincipal userPrincipal = (UserPrincipal) authentication.getPrincipal();\n" <|
  .text "        return ResponseEntity.ok(new JwtResponse(\n" <|
  .text "                jwt,\n" <|
  .text "                userPrincipal.getId(),\n" <|
  .text "                userPrincipal.getUsername(),\n" <|
  .text "                jwtUtils.getExpirationMs()));\n" <|
  .text "    \x7d\n" <|
  .text "\x7d\n" <|
  .done

/-- The answer to a request without a valid token. -/
def entryPoint : Template :=
  .text "package " <| .put "package_name" <| .text ";\n" <|
  .text "\n" <|
  .text "import com.fasterxml.jackson.databind.ObjectMapper;\n" <|
  .text "import jakarta.servlet.http.HttpServletRequest;\n" <|
  .text "import jakarta.servlet.http.HttpServletResponse;\n" <|
  .text "import org.slf4j.Logger;\n" <|
  .text "import org.slf4j.LoggerFactory;\n" <|
  .text "import org.springframework.http.MediaType;\n" <|
  .text "import org.springframework.security.core.AuthenticationException;\n" <|
  .text "import org.springframework.security.web.AuthenticationEntryPoint;\n" <|
  .text "import org.springframework.stereotype.Component;\n" <|
  .text "\n" <|
  .text "import java.io.IOException;\n" <|
  .text "import java.util.HashMap;\n" <|
  .text "import java.util.Map;\n" <|
  .text "\n" <|
  .text "/**\n" <|
  .text " * Answers unauthenticated requests with a JSON 401 body.\n" <|
  .text " */\n" <|
  .text "@Component\n" <|
  .text "public class JwtAuthenticationEntryPoint implements AuthenticationEntryPoint \x7b\n" <|
  .text "\n" <|
  .text "    private static final Logger logger = LoggerFactory.getLogger(JwtAuthenticationEntryPoint.class);\n" <|
  .text "\n" <|
  .text "    @Override\n" <|
  .text "    public void commence(HttpServletRequest request, HttpServletResponse response,\n" <|
  .text "                         AuthenticationException authException) throws IOException \x7b\n" <|
  .text "        logger.error(\"Unauthorized error: \x7b\x7d\", authException.getMessage());\n" <|
  .text "\n" <|
  .text "        response.setContentType(MediaType.APPLICATION_JSON_VALUE);\n" <|
  .text "        response.setStatus(HttpServletResponse.SC_UNAUTHORIZED);\n" <|
  .text "\n" <|
  .text "        Map<String, Object> body = new HashMap<>();\n" <|
  .text "        body.put(\"status\", HttpServletResponse.SC_UNAUTHORIZED);\n" <|
  .text "        body.put(\"error\", \"Unauthorized\");\n" <|
  .text "        body.put(\"message\", authException.getMessage());\n" <|
  .text "        body.put(\"path\", request.getServletPath());\n" <|
  .text "\n" <|
  .text "        new ObjectMapper().writeValue(response.getOutputStream(), body);\n" <|
  .text "    \x7d\n" <|
  .text "\x7d\n" <|
  .done

/-- The filter that reads the token of a request. -/
def authenticationFilter : Template :=
  .text "package " <| .put "package_name" <| .text ";\n" <|
  .text "\n" <|
  .text "import jakarta.servlet.FilterChain;\n" <|
  .text "import jakarta.servlet.ServletException;\n" <|
  .text "import jakarta.servlet.http.HttpServletRequest;\n" <|
  .text "import jakarta.servlet.http.HttpServletResponse;\n" <|
  .text "import org.slf4j.Logger;\n" <|
  .text "import org.slf4j.LoggerFactory;\n" <|
  .text "import org.springframework.beans.factory.annotation.Autowired;\n" <|
  .text "import org.springframework.security.authentication.UsernamePasswordAuthenticationToken;\n" <|
  .text "import org.springframework.security.core.context.SecurityContextHolder;\n" <|
  .text "import org.springframework.security.core.userdetails.UserDetails;\n" <|
  .text "import org.springframework.security.web.authentication.WebAuthenticationDetailsSource;\n" <|
  .text "import org.springframework.util.StringUtils;\n" <|
  .text "import org.springframework.web.filter.OncePerRequestFilter;\n" <|
  .text "\n" <|
  .text "import java.io.IOException;\n" <|
  .text "\n" <|
  .text "/**\n" <|
  .text " * Authenticates requests carrying a \x7b@code Bearer\x7d token.\n" <|
  .text " */\n" <|
  .text "public class JwtAuthenticationFilter extends OncePerRequestFilter \x7b\n" <|
  .text "\n" <|
  .text "    private static final Logger logger = LoggerFactory.getLogger(JwtAuthenticationFilter.class);\n" <|
  .text "\n" <|
  .text "    @Autowired\n" <|
  .text "    private JwtUtils jwtUtils;\n" <|
  .text "\n" <|
  .text "    @Autowired\n" <|
  .text "    private UserDetailsServiceImpl userDetailsService;\n" <|
  .text "\n" <|
  .text "    @Override\n" <|
  .text "    protected void doFilterInternal(HttpServletRequest request, HttpServletResponse response,\n" <|
  .text "                                    FilterChain filterChain) throws ServletException, IOException \x7b\n" <|
  .text "        try \x7b\n" <|
  .text "            String jwt = parseJwt(request);\n" <|
  .text "            if (jwt != null && jwtUtils.validateJwtToken(jwt)) \x7b\n" <|
  .text "                String username = jwtUtils.getUsernameFromJwtToken(jwt);\n" <|
  .text "                UserDetails userDetails = userDetailsService.loadUserByUsername(username);\n" <|
  .text "\n" <|
  .text "                UsernamePasswordAuthenticationToken authentication =\n" <|
  .text "                        new UsernamePasswordAuthenticationToken(userDetails, null, userDetails.getAuthorities());\n" <|
  .text "                authentication.setDetails(new WebAuthenticationDetailsSource().buildDetails(request));\n" <|
  .text "\n" <|
  .text "                SecurityContextHolder.getContext().setAuthentication(authentication);\n" <|
  .text "            \x7d\n" <|
  .text "        \x7d catch (Exception e) \x7b\n" <|
  .text "            logger.error(\"Cannot set user authentication: \x7b\x7d\", e.getMessage());\n" <|
  .text "        \x7d\n" <|
  .text "\n" <|
  .text "        filterChain.doFilter(request, response);\n" <|
  .text "    \x7d\n" <|
  .text "\n" <|
  .text "    private String parseJwt(HttpServletRequest request) \x7b\n" <|
  .text "        String headerAuth = request.getHeader(\"Authorization\");\n" <|
  .text "        if (StringUtils.hasText(headerAuth) && headerAuth.startsWith(\"Bearer \")) \x7b\n" <|
  .text "            return headerAuth.substring(7);\n" <|
  .text "        \x7d\n" <|
  .text "        return null;\n" <|
  .text "    \x7d\n" <|
  .text "\x7d\n" <|
  .done

/-- The body of a request for a token. -/
def tokenRequest : Template :=
  .text "package " <| .put "package_name" <| .text ";\n" <|
  .text "\n" <|
  .text "import jakarta.validation.constraints.NotBlank;\n" <|
  .text "\n" <|
  .text "/**\n" <|
  .text " * Credentials posted to the sign-in endpoint.\n" <|
  .text " */\n" <|
  .text "public class JwtRequest \x7b\n" <|
  .text "\n" <|
  .text "    @NotBlank\n" <|
  .text "    private String username;\n" <|
  .text "\n" <|
  .text "    @NotBlank\n" <|
  .text "    private String password;\n" <|
  .text "\n" <|
  .text "    public JwtRequest() \x7b\n" <|
  .text "    \x7d\n" <|
  .text "\n" <|
  .text "    public JwtRequest(String username, String password) \x7b\n" <|
  .text "        this.username = username;\n" <|
  .text "        this.password = password;\n" <|
  .text "    \x7d\n" <|
  .text "\n" <|
  .text "    public String getUsername() \x7b\n" <|
  .text "        return username;\n" <|
  .text "    \x7d\n" <|
  .text "\n" <|
  .text "    public void setUsername(String username) \x7b\n" <|
  .text "        this.username = username;\n" <|
  .text "    \x7d\n" <|
  .text "\n" <|
  .text "    public String getPassword() \x7b\n" <|
  .text "        return password;\n" <|
  .text "    \x7d\n" <|
  .text "\n" <|
  .text "    public void setPassword(String password) \x7b\n" <|
  .text "        this.password = password;\n" <|
  .text "    \x7d\n" <|
  .text "\x7d\n" <|
  .done

/-- The body of the answer with a token. -/
def tokenResponse : Template :=
  .text "package " <| .put "package_name" <| .text ";\n" <|
  .text "\n" <|
  .text "/**\n" <|
  .text " * Token returned by a successful sign-in.\n" <|
  .text " */\n" <|
  .text "public class JwtResponse \x7b\n" <|
  .text "\n" <|
  .text "    private String token;\n" <|
  .text "    private String type = \"Bearer\";\n" <|
  .text "    private Long id;\n" <|
  .text "    private String username;\n" <|
  .text "    private long expiresIn;\n" <|
  .text "\n" <|
  .text "    public JwtResponse(String token, Long id, String username, long expiresIn) \x7b\n" <|
  .text "        this.token = token;\n" <|
  .text "        this.id = id;\n" <|
  .text "        this.username = username;\n" <|
  .text "        this.expiresIn = expiresIn;\n" <|
  .text "    \x7d\n" <|
  .text "\n" <|
  .text "    public String getToken() \x7b\n" <|
  .text "        return token;\n" <|
  .text "    \x7d\n" <|
  .text "\n" <|
  .text "    public String getType() \x7b\n" <|
  .text "        return type;\n" <|
  .text "    \x7d\n" <|
  .text "\n" <|
  .text "    public Long getId() \x7b\n" <|
  .text "        return id;\n" <|
  .text "    \x7d\n" <|
  .text "\n" <|
  .text "    public String getUsername() \x7b\n" <|
  .text "        return username;\n" <|
  .text "    \x7d\n" <|
  .text "\n" <|
  .text "    public long getExpiresIn() \x7b\n" <|
  .text "        return expiresIn;\n" <|
  .text "    \x7d\n" <|
  .text "\x7d\n" <|
  .done

/-- Making and checking tokens. -/
def tokenUtilities : Template :=
  .text "package " <| .put "package_name" <| .text ";\n" <|
  .text "\n" <|
  .text "import io.jsonwebtoken.ExpiredJwtException;\n" <|
  .text "import io.jsonwebtoken.Jwts;\n" <|
  .text "import io.jsonwebtoken.MalformedJwtException;\n" <|
  .text "import io.jsonwebtoken.SignatureAlgorithm;\n" <|
  .text "import io.jsonwebtoken.SignatureException;\n" <|
  .text "import io.jsonwebtoken.UnsupportedJwtException;\n" <|
  .text "import org.slf4j.Logger;\n" <|
  .text "import org.slf4j.LoggerFactory;\n" <|
  .text "import org.springframework.beans.factory.annotation.Value;\n" <|
  .text "import org.springframework.security.core.Authentication;\n" <|
  .text "import org.springframework.stereotype.Component;\n" <|
  .text "\n" <|
  .text "import java.util.Date;\n" <|
  .text "\n" <|
  .text "/**\n" <|
  .text " * Issues and validates JSON Web Tokens.\n" <|
  .text " */\n" <|
  .text "@Component\n" <|
  .text "public class JwtUtils \x7b\n" <|
  .text "\n" <|
  .text "    private static final Logger logger = LoggerFactory.getLogger(JwtUtils.class);\n" <|
  .text "\n" <|
  .text "    @Value(\"$\x7bapp.jwt.secret:" <| .put "jwt_secret" <| .text "\x7d\")\n" <|
  .text "    private String jwtSecret;\n" <|
  .text "\n" <|
  .text "    // " <| .put "jwt_expiration_hours" <| .text " hour(s) by default\n" <|
  .text "    @Value(\"$\x7bapp.jwt.expiration:" <| .put "jwt_expiration" <| .text "\x7d\")\n" <|
  .text "    private long jwtExpirationMs;\n" <|
  .text "\n" <|
  .text "    public String generateJwtToken(Authentication authentication) \x7b\n" <|
  .text "        UserPrincipal userPrincipal = (UserPrincipal) authentication.getPrincipal();\n" <|
  .text "        return generateTokenFromUsername(userPrincipal.getUsername());\n" <|
  .text "    \x7d\n" <|
  .text "\n" <|
  .text "    public String generateTokenFromUsername(String username) \x7b\n" <|
  .text "        return Jwts.builder()\n" <|
  .text "                .setSubject(username)\n" <|
  .text "                .setIssuedAt(new Date())\n" <|
  .text "                .setExpiration(new Date(new Date().getTime() + jwtExpirationMs))\n" <|
  .text "                .signWith(SignatureAlgorithm.HS512, jwtSecret)\n" <|
  .text "                .compact();\n" <|
  .text "    \x7d\n" <|
  .text "\n" <|
  .text "    public String getUsernameFromJwtToken(String token) \x7b\n" <|
  .text "        return Jwts.parser().setSigningKey(jwtSecret).parseClaimsJws(token).getBody().getSubject();\n" <|
  .text "    \x7d\n" <|
  .text "\n" <|
  .text "    public long getExpirationMs() \x7b\n" <|
  .text "        return jwtExpirationMs;\n" <|
  .text "    \x7d\n" <|
  .text "\n" <|
  .text "    public boolean validateJwtToken(String authToken) \x7b\n" <|
  .text "        try \x7b\n" <|
  .text "            Jwts.parser().setSigningKey(jwtSecret).parseClaimsJws(authToken);\n" <|
  .text "            return true;\n" <|
  .text "        \x7d catch (SignatureException e) \x7b\n" <|
  .text "            logger.error(\"Invalid JWT signature: \x7b\x7d\", e.getMessage());\n" <|
  .text "        \x7d catch (MalformedJwtException e) \x7b\n" <|
  .text "            logger.error(\"Invalid JWT token: \x7b\x7d\", e.getMessage());\n" <|
  .text "        \x7d catch (ExpiredJwtException e) \x7b\n" <|
  .text "            logger.error(\"JWT token is expired: \x7b\x7d\", e.getMessage());\n" <|
  .text "        \x7d catch (UnsupportedJwtException e) \x7b\n" <|
  .text "            logger.error(\"JWT token is unsupported: \x7b\x7d\", e.getMessage());\n" <|
  .text "        \x7d catch (IllegalArgumentException e) \x7b\n" <|
  .text "            logger.error(\"JWT claims string is empty: \x7b\x7d\", e.getMessage());\n" <|
  .text "        \x7d\n" <|
  .text "        return false;\n" <|
  .text "    \x7d\n" <|
  .text "\x7d\n" <|
  .done

/-- The security configuration. -/
def securityConfig : Template :=
  .text "package " <| .put "package_name" <| .text ";\n" <|
  .text "\n" <|
  .text "import org.springframework.context.annotation.Bean;\n" <|
  .text "import org.springframework.context.annotation.Configuration;\n" <|
  .text "import org.springframework.security.authentication.AuthenticationManager;\n" <|
  .text "import org.springframework.security.authentication.dao.DaoAuthenticationProvider;\n" <|
  .text "import org.springframework.security.config.annotation.authentication.configuration.AuthenticationConfiguration;\n" <|
  .text "import org.springframework.security.config.annotation.method.configuration.EnableMethodSecurity;\n" <|
  .text "import org.springframework.security.config.annotation.web.builders.HttpSecurity;\n" <|
  .text "import org.springframework.security.config.annotation.web.configuration.EnableWebSecurity;\n" <|
  .text "import org.springframework.security.config.http.SessionCreationPolicy;\n" <|
  .text "import org.springframework.security.crypto.bcrypt.BCryptPasswordEncoder;\n" <|
  .text "import org.springframework.security.crypto.password.PasswordEncoder;\n" <|
  .text "import org.springframework.security.web.SecurityFilterChain;\n" <|
  .text "import org.springframework.security.web.authentication.UsernamePasswordAuthenticationFilter;\n" <|
  .branch (.name "enable_cors")
    (.text "import org.springframework.web.cors.CorsConfiguration;\n" <|
     .text "import org.springframework.web.cors.CorsConfigurationSource;\n" <|
     .text "import org.springframework.web.cors.UrlBasedCorsConfigurationSource;\n" <|
     .text "\n" <|
     .text "import java.util.List;\n" <|
     .done)
    .done <|
  .text "\n" <|
  .text "/**\n" <|
  .text " * Stateless JWT security configuration.\n" <|
  .text " */\n" <|
  .text "@Configuration\n" <|
  .text "@EnableWebSecurity\n" <|
  .text "@EnableMethodSecurity\n" <|
  .text "public class SecurityConfig \x7b\n" <|
  .text "\n" <|
  .text "    private final UserDetailsServiceImpl userDetailsService;\n" <|
  .text "    private final JwtAuthenticationEntryPoint unauthorizedHandler;\n" <|
  .text "\n" <|
  .text "    public SecurityConfig(UserDetailsServiceImpl userDetailsService,\n" <|
  .text "                          JwtAuthenticationEntryPoint unauthorizedHandler) \x7b\n" <|
  .text "        this.userDetailsService = userDetailsService;\n" <|
  .text "        this.unauthorizedHandler = unauthorizedHandler;\n" <|
  .text "    \x7d\n" <|
  .text "\n" <|
  .text "    @Bean\n" <|
  .text "    public JwtAuthenticationFilter authenticationJwtTokenFilter() \x7b\n" <|
  .text "        return new JwtAuthenticationFilter();\n" <|
  .text "    \x7d\n" <|
  .text "\n" <|
  .text "    @Bean\n" <|
  .text "    public DaoAuthenticationProvider authenticationProvider() \x7b\n" <|
  .text "        DaoAuthenticationProvider authProvider = new DaoAuthenticationProvider();\n" <|
  .text "        authProvider.setUserDetailsService(userDetailsService);\n" <|
  .text "        authProvider.setPasswordEncoder(passwordEncoder());\n" <|
  .text "        return authProvider;\n" <|
  .text "    \x7d\n" <|
  .text "\n" <|
  .text "    @Bean\n" <|
  .text "    public AuthenticationManager authenticationManager(AuthenticationConfiguration authConfig) throws Exception \x7b\n" <|
  .text "        return authConfig.getAuthenticationManager();\n" <|
  .text "    \x7d\n" <|
  .text "\n" <|
  .text "    @Bean\n" <|
  .text "    public PasswordEncoder passwordEncoder() \x7b\n" <|
  .text "        return new BCryptPasswordEncoder();\n" <|
  .text "    \x7d\n" <|
  .text "\n" <|
  .text "    @Bean\n" <|
  .text "    public SecurityFilterChain filterChain(HttpSecurity http) throws Exception \x7b\n" <|
  .text "        http\n" <|
  .branch (.name "enable_cors")
    (.text "                .cors(cors -> cors.configurationSource(corsConfigurationSource()))\n" <|
     .done)
    .done <|
  .text "                .csrf(csrf -> csrf.disable())\n" <|
  .text "                .exceptionHandling(exception -> exception.authenticationEntryPoint(unauthorizedHandler))\n" <|
  .text "                .sessionManagement(session -> session.sessionCreationPolicy(SessionCreationPolicy.STATELESS))\n" <|
  .text "                .authorizeHttpRequests(auth -> auth\n" <|
  .text "                        .requestMatchers(\"/api/auth/**\").permitAll()\n" <|
  .text "                        .requestMatchers(\"/h2-console/**\").permitAll()\n" <|
  .text "                        .anyRequest().authenticated());\n" <|
  .text "\n" <|
  .text "        http.headers(headers -> headers.frameOptions(frame -> frame.sameOrigin()));\n" <|
  .text "        http.authenticationProvider(authenticationProvider());\n" <|
  .text "        http.addFilterBefore(authenticationJwtTokenFilter(), UsernamePasswordAuthenticationFilter.class);\n" <|
  .text "\n" <|
  .text "        return http.build();\n" <|
  .text "    \x7d\n" <|
  .branch (.name "enable_cors")
    (.text "\n" <|
     .text "    @Bean\n" <|
     .text "    public CorsConfigurationSource corsConfigurationSource() \x7b\n" <|
     .text "        CorsConfiguration configuration = new CorsConfiguration();\n" <|
     .text "        configuration.setAllowedOriginPatterns(List.of(\"*\"));\n" <|
     .text "        configuration.setAllowedMethods(List.of(\"GET\", \"POST\", \"PUT\", \"DELETE\", \"OPTIONS\"));\n" <|
     .text "        configuration.setAllowedHeaders(List.of(\"*\"));\n" <|
     .text "        configuration.setAllowCredentials(true);\n" <|
     .text "\n" <|
     .text "        UrlBasedCorsConfigurationSource source = new UrlBasedCorsConfigurationSource();\n" <|
     .text "        source.registerCorsConfiguration(\"/**\", configuration);\n" <|
     .text "        return source;\n" <|
     .text "    \x7d\n" <|
     .done)
    .done <|
  .text "\x7d\n" <|
  .done

/-- Loading the account of a user name. -/
def userDetailsService : Template :=
  .text "package " <| .put "package_name" <| .text ";\n" <|
  .text "\n" <|
  .text "import " <| .put "user_package" <| .text "." <| .put "user_entity" <| .text ";\n" <|
  .text "import " <| .put "user_repository_package" <| .text "." <| .put "user_repository_name" <|
    .text ";\n" <|
  .text "import org.springframework.security.core.userdetails.UserDetails;\n" <|
  .text "import org.springframework.security.core.userdetails.UserDetailsService;\n" <|
  .text "import org.springframework.security.core.userdetails.UsernameNotFoundException;\n" <|
  .text "import org.springframework.stereotype.Service;\n" <|
  .text "import org.springframework.transaction.annotation.Transactional;\n" <|
  .text "\n" <|
  .text "/**\n" <|
  .text " * Loads \x7b@link " <| .put "user_entity" <|
    .text "\x7d accounts for Spring Security.\n" <|
  .text " */\n" <|
  .text "@Service\n" <|
  .text "public class UserDetailsServiceImpl implements UserDetailsService \x7b\n" <|
  .text "\n" <|
  .text "    private final " <| .put "user_repository_name" <| .text " " <|
    .put "user_instance_name" <| .text "Repository;\n" <|
  .text "\n" <|
  .text "    public UserDetailsServiceImpl(" <| .put "user_repository_name" <| .text " " <|
    .put "user_instance_name" <| .text "Repository) \x7b\n" <|
  .text "        this." <| .put "user_instance_name" <| .text "Repository = " <|
    .put "user_instance_name" <| .text "Repository;\n" <|
  .text "    \x7d\n" <|
  .text "\n" <|
  .text "    @Override\n" <|
  .text "    @Transactional(readOnly = true)\n" <|
  .text "    public UserDetails loadUserByUsername(String username) throws UsernameNotFoundException \x7b\n" <|
  .text "        " <| .put "user_entity" <| .text " " <| .put "user_instance_name" <| .text " = " <|
    .put "user_instance_name" <| .text "Repository.findByUsername(username)\n" <|
  .text "                .orElseThrow(() -> new UsernameNotFoundException(\"User not found with username: \" + username));\n" <|
  .text "\n" <|
  .text "        return UserPrincipal.build(" <| .put "user_instance_name" <| .text ");\n" <|
  .text "    \x7d\n" <|
  .text "\x7d\n" <|
  .done

/-- The account as the security framework sees it. -/
def userPrincipal : Template :=
  .text "package " <| .put "package_name" <| .text ";\n" <|
  .text "\n" <|
  .text "import " <| .put "user_package" <| .text "." <| .put "user_entity" <| .text ";\n" <|
  .text "import com.fasterxml.jackson.annotation.JsonIgnore;\n" <|
  .text "import org.springframework.security.core.GrantedAuthority;\n" <|
  .text "import org.springframework.security.core.authority.SimpleGrantedAuthority;\n" <|
  .text "import org.springframework.security.core.userdetails.UserDetails;\n" <|
  .text "\n" <|
  .text "import java.util.Collection;\n" <|
  .text "import java.util.List;\n" <|
  .text "import java.util.Objects;\n" <|
  .text "\n" <|
  .text "/**\n" <|
  .text " * Spring Security view of a \x7b@link " <| .put "user_entity" <| .text "\x7d.\n" <|
  .text " */\n" <|
  .text "public class UserPrincipal implements UserDetails \x7b\n" <|
  .text "\n" <|
  .text "    private final Long id;\n" <|
  .text "    private final String username;\n" <|
  .text "\n" <|
  .text "    @JsonIgnore\n" <|
  .text "    private final String password;\n" <|
  .text "\n" <|
  .text "    private final Collection<? extends GrantedAuthority> authorities;\n" <|
  .text "\n" <|
  .text "    public UserPrincipal(Long id, String username, String password,\n" <|
  .text "                         Collection<? extends GrantedAuthority> authorities) \x7b\n" <|
  .text "        this.id = id;\n" <|
  .text "        this.username = username;\n" <|
  .text "        this.password = password;\n" <|
  .text "        this.authorities = authorities;\n" <|
  .text "    \x7d\n" <|
  .text "\n" <|
  .text "    public static UserPrincipal build(" <| .put "user_entity" <| .text " " <|
    .put "user_instance_name" <| .text ") \x7b\n" <|
  .text "        List<GrantedAuthority> authorities = List.of(new SimpleGrantedAuthority(\"ROLE_USER\"));\n" <|
  .text "        return new UserPrincipal(\n" <|
  .text "                " <| .put "user_instance_name" <| .text ".getId(),\n" <|
  .text "                " <| .put "user_instance_name" <| .text ".getUsername(),\n" <|
  .text "                " <| .put "user_instance_name" <| .text ".getPassword(),\n" <|
  .text "                authorities);\n" <|
  .text "    \x7d\n" <|
  .text "\n" <|
  .text "    public Long getId() \x7b\n" <|
  .text "        return id;\n" <|
  .text "    \x7d\n" <|
  .text "\n" <|
  .text "    @Override\n" <|
  .text "    public Collection<? extends GrantedAuthority> getAuthorities() \x7b\n" <|
  .text "        return authorities;\n" <|
  .text "    \x7d\n" <|
  .text "\n" <|
  .text "    @Override\n" <|
  .text "    public String getPassword() \x7b\n" <|
  .text "        return password;\n" <|
  .text "    \x7d\n" <|
  .text "\n" <|
  .text "    @Override\n" <|
  .text "    public String getUsername() \x7b\n" <|
  .text "        return username;\n" <|
  .text "    \x7d\n" <|
  .text "\n" <|
  .text "    @Override\n" <|
  .text "    public boolean isAccountNonExpired() \x7b\n" <|
  .text "        return true;\n" <|
  .text "    \x7d\n" <|
  .text "\n" <|
  .text "    @Override\n" <|
  .text "    public boolean isAccountNonLocked() \x7b\n" <|
  .text "        return true;\n" <|
  .text "    \x7d\n" <|
  .text "\n" <|
  .text "    @Override\n" <|
  .text "    public boolean isCredentialsNonExpired() \x7b\n" <|
  .text "        return true;\n" <|
  .text "    \x7d\n" <|
  .text "\n" <|
  .text "    @Override\n" <|
  .text "    public boolean isEnabled() \x7b\n" <|
  .text "        return true;\n" <|
  .text "    \x7d\n" <|
  .text "\n" <|
  .text "    @Override\n" <|
  .text "    public boolean equals(Object o) \x7b\n" <|
  .text "        if (this == o) return true;\n" <|
  .text "        if (o == null || getClass() != o.getClass()) return false;\n" <|
  .text "        UserPrincipal that = (UserPrincipal) o;\n" <|
  .text "        return Objects.equals(id, that.id);\n" <|
  .text "    \x7d\n" <|
  .text "\n" <|
  .text "    @Override\n" <|
  .text "    public int hashCode() \x7b\n" <|
  .text "        return Objects.hash(id);\n" <|
  .text "    \x7d\n" <|
  .text "\x7d\n" <|
  .done

end Groundwork.Template.Bundled
